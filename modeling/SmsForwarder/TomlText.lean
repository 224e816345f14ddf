/-
**Printed TOML documents.**

What a program writes without escape sequences: blank lines, assignments of strings, integers and
booleans to dotted keys of bare parts, and headers of elements of arrays of tables, each on a line
of its own.  Such lines read as what they were written for, as long as every character of every
string is plain.  Behind them may follow one more assignment of a string of which nothing is known;
whatever it makes of the rest of the document, the string that was read is defined.

Main definitions:

* `Toml.Line`, `Toml.Line.text`, `Toml.linesText` — lines of a plain form and their text;
* `Toml.Line.run`, `Toml.runLines` — what they define.

Main results:

* `Toml.decimal_toString`, `Toml.key_dotted`, `Toml.value_text`, `Toml.expression_text` — integers,
  keys, values and lines read as what was printed;
* `Toml.parse_linesText` — **printed lines read as those lines**;
* `Toml.exists_of_parse_str` — a string of unknown characters behind printed lines.
-/

import SmsForwarder.Toml

set_option relaxedAutoImplicit false
set_option autoImplicit false

namespace Toml

/-! ### Integers -/

/-- The decimal digits of a positive number do not start with a zero. -/
theorem head_toDigits {n : ℕ} (h : 0 < n) : (Nat.toDigits 10 n).head? ≠ some '0' := by
  induction n using Nat.strongRecOn with
  | ind n ih =>
      rw [Nat.toDigits_eq_if (by omega)]
      split_ifs with hlt
      · interval_cases n <;> decide
      · have := ih (n / 10) (by omega) (by omega)
        cases hd : Nat.toDigits 10 (n / 10) with
        | nil => exact absurd hd Nat.toDigits_ne_nil
        | cons d ds => simpa [hd] using this

theorem isDigit_toDigits (n : ℕ) : ∀ c ∈ Nat.toDigits 10 n, c.isDigit = true :=
  fun _ hc => Nat.isDigit_of_mem_toDigits (by omega) (by omega) hc

theorem not_isDigit_of_endsValue {c : Char} {cs : List Char} (h : endsValue (c :: cs) = true) :
    c.isDigit = false := by
  simp only [endsValue, isBlank, Bool.or_eq_true, decide_eq_true_eq] at h
  rcases h with (((rfl | rfl) | rfl) | rfl) | rfl <;> decide

/-- The decimal digits of a number read as that number. -/
theorem digits_toDigits (n : ℕ) {rest : List Char} (h : endsValue rest = true) :
    digits (Nat.toDigits 10 n ++ rest) = some (n, rest) := by
  have hdig := isDigit_toDigits n
  have htake : (Nat.toDigits 10 n ++ rest).takeWhile Char.isDigit = Nat.toDigits 10 n := by
    rw [List.takeWhile_append_of_pos hdig]
    cases rest with
    | nil => simp
    | cons c cs => simp [not_isDigit_of_endsValue h]
  have hdrop : (Nat.toDigits 10 n ++ rest).dropWhile Char.isDigit = rest := by
    rw [List.dropWhile_append_of_pos hdig]
    cases rest with
    | nil => simp
    | cons c cs => simp [not_isDigit_of_endsValue h]
  have hzero : (Nat.toDigits 10 n).head? = some '0' → (Nat.toDigits 10 n).length = 1 := by
    intro hhead
    rcases Nat.eq_zero_or_pos n with rfl | hpos
    · rfl
    · exact absurd hhead (head_toDigits hpos)
  unfold digits
  simp only [htake, hdrop]
  rw [if_pos ⟨Nat.toDigits_ne_nil, hzero, h⟩, Nat.ofDigitChars_ten_toDigits]

/-- The text of an integer reads as that integer. -/
theorem decimal_toString (z : ℤ) {rest : List Char} (h : endsValue rest = true) :
    decimal ((toString z).toList ++ rest) = some (z, rest) := by
  rw [Int.toString_eq_repr, Int.repr_eq_if]
  split_ifs with hz
  · rw [Nat.toList_repr]
    have hread := digits_toDigits z.toNat h
    cases hd : Nat.toDigits 10 z.toNat with
    | nil => exact absurd hd Nat.toDigits_ne_nil
    | cons c cs =>
        have hc : c.isDigit = true := isDigit_toDigits z.toNat c (by simp [hd])
        have hne : c ≠ '-' := by
          intro heq
          subst heq
          exact absurd hc (by decide)
        rw [hd, List.cons_append] at hread
        rw [List.cons_append, decimal, if_neg hne, hread, Option.map_some]
        simp [hz]
  · rw [String.toList_append, Nat.toList_repr]
    have hread := digits_toDigits (-z).toNat h
    have hminus : "-".toList = ['-'] := rfl
    rw [hminus, List.singleton_append, List.cons_append, decimal, if_pos rfl, hread,
      Option.map_some]
    have : ((-z).toNat : ℤ) = -z := by omega
    simp [this]

/-- The text of an integer starts with a digit or a minus sign. -/
theorem head_toString (z : ℤ) :
    ∃ c cs, (toString z).toList = c :: cs ∧ (c = '-' ∨ c.isDigit = true) := by
  rw [Int.toString_eq_repr, Int.repr_eq_if]
  split_ifs with hz
  · rw [Nat.toList_repr]
    cases hd : Nat.toDigits 10 z.toNat with
    | nil => exact absurd hd Nat.toDigits_ne_nil
    | cons c cs => exact ⟨c, cs, rfl, Or.inr (isDigit_toDigits z.toNat c (by simp [hd]))⟩
  · exact ⟨'-', _, by rw [String.toList_append]; rfl, Or.inl rfl⟩

/-! ### Plain lines -/

/-- The text of a dotted key of bare parts. -/
def dotted (ks : List (List Char)) : List Char := ['.'].intercalate ks

/-- A key of bare parts. -/
def BareKey (ks : List (List Char)) : Prop := ks ≠ [] ∧ ∀ k ∈ ks, k ≠ [] ∧ k.all isBare = true

instance (ks : List (List Char)) : Decidable (BareKey ks) := inferInstanceAs (Decidable (_ ∧ _))

theorem BareKey.head {k : List Char} {ks : List (List Char)} (h : BareKey (k :: ks)) :
    ∃ c cs, k = c :: cs ∧ isBare c = true ∧ cs.all isBare = true := by
  obtain ⟨hne, hall⟩ := h.2 k List.mem_cons_self
  cases k with
  | nil => exact absurd rfl hne
  | cons c cs =>
      rw [List.all_cons, Bool.and_eq_true] at hall
      exact ⟨c, cs, rfl, hall⟩

/-- A bare character opens nothing: no blank, string, comment, header or line break. -/
theorem isBare_ne {c : Char} (h : isBare c = true) : isBlank c = false ∧ c ≠ '"' ∧
    c ≠ Char.ofNat 39 ∧ c ≠ '[' ∧ c ≠ '#' ∧ c ≠ '\n' ∧ c ≠ '\r' := by
  refine ⟨?_, ?_, ?_, ?_, ?_, ?_, ?_⟩
  · rw [Bool.eq_false_iff]
    intro hb
    simp only [isBlank, Bool.or_eq_true, decide_eq_true_eq] at hb
    rcases hb with rfl | rfl <;> revert h <;> decide
  all_goals
    intro heq
    subst heq
    revert h
    decide

theorem skipBlank_of_bare {c : Char} {cs : List Char} (h : isBare c = true) :
    skipBlank (c :: cs) = c :: cs := by
  unfold skipBlank
  rw [List.dropWhile_cons, (isBare_ne h).1]
  rfl

theorem simpleKey_bare {k tail : List Char} (hne : k ≠ []) (hk : k.all isBare = true)
    (htail : tail.head?.all (fun c => !isBare c) = true) :
    simpleKey (k ++ tail) = some (k, tail) := by
  have hall : ∀ c ∈ k, isBare c = true := List.all_eq_true.1 hk
  have htake : (k ++ tail).takeWhile isBare = k := by
    rw [List.takeWhile_append_of_pos hall]
    cases tail with
    | nil => simp
    | cons c cs =>
        have hc : isBare c = false := by simpa using htail
        simp [hc]
  have hdrop : (k ++ tail).dropWhile isBare = tail := by
    rw [List.dropWhile_append_of_pos hall]
    cases tail with
    | nil => simp
    | cons c cs =>
        have hc : isBare c = false := by simpa using htail
        simp [hc]
  cases k with
  | nil => exact absurd rfl hne
  | cons c cs =>
      obtain ⟨-, hquote, hapos, -⟩ := isBare_ne (hall c List.mem_cons_self)
      unfold simpleKey
      rw [htake, hdrop, List.cons_append, List.head?_cons]
      simp [hquote, hapos]

/-- A dotted key of bare parts reads as itself. -/
theorem key_dotted {ks : List (List Char)} (h : BareKey ks) {n : ℕ} (hn : ks.length ≤ n)
    {tail : List Char} (htail : tail.head?.all (fun c => !isBare c) = true)
    (hdot : (skipBlank tail).head? ≠ some '.') :
    key n (dotted ks ++ tail) = some (ks, skipBlank tail) := by
  induction ks generalizing n with
  | nil => exact absurd rfl h.1
  | cons k ks ih =>
      obtain ⟨n, rfl⟩ : ∃ m, n = m + 1 := ⟨n - 1, by simp only [List.length_cons] at hn; omega⟩
      obtain ⟨hne, hall⟩ := h.2 k List.mem_cons_self
      obtain ⟨c, cs, hk, hc, -⟩ := h.head
      have hskip : ∀ t, skipBlank (k ++ t) = k ++ t := by
        intro t
        rw [hk]
        exact skipBlank_of_bare hc
      cases ks with
      | nil =>
          have hd : dotted [k] = k := by simp [dotted, List.intercalate]
          rw [hd, key, hskip, simpleKey_bare hne hall htail]
          simp only
          split
          · rename_i rest heq
            simp [heq] at hdot
          · rfl
      | cons k' ks =>
          have hd : dotted (k :: k' :: ks) = k ++ '.' :: dotted (k' :: ks) := by
            simp [dotted, List.intercalate, List.intersperse]
          have hrest : BareKey (k' :: ks) :=
            ⟨by simp, fun k'' hk'' => h.2 k'' (List.mem_cons_of_mem _ hk'')⟩
          have hread := ih hrest (n := n) (by simp only [List.length_cons] at hn ⊢; omega)
          have hstop : skipBlank ('.' :: (dotted (k' :: ks) ++ tail)) =
              '.' :: (dotted (k' :: ks) ++ tail) := rfl
          rw [hd, List.append_assoc, List.cons_append, key, hskip,
            simpleKey_bare hne hall rfl]
          simp only [hstop, hread, Option.map_some]

theorem length_le_dotted {ks : List (List Char)} (h : BareKey ks) :
    ks.length ≤ (dotted ks).length := by
  induction ks with
  | nil => simp
  | cons k ks ih =>
      obtain ⟨c, cs, hk, -⟩ := h.head
      cases ks with
      | nil => simp [dotted, List.intercalate, hk]
      | cons k' ks =>
          have hrest : BareKey (k' :: ks) :=
            ⟨by simp, fun k'' hk'' => h.2 k'' (List.mem_cons_of_mem _ hk'')⟩
          have hd : dotted (k :: k' :: ks) = k ++ '.' :: dotted (k' :: ks) := by
            simp [dotted, List.intercalate, List.intersperse]
          have := ih hrest
          rw [hd, hk]
          simp only [List.length_append, List.length_cons] at this ⊢
          omega

section

variable {β : Type} {other : List Char → Option (Value β × List Char)}

/-- The text of a value, as a program prints it without escape sequences. -/
def Value.text : Value β → List Char
  | .str s => '"' :: (s ++ ['"'])
  | .int z => (toString z).toList
  | .bool true => "true".toList
  | .bool false => "false".toList
  | .other _ => []

/-- Values whose text reads as themselves. -/
def Value.Printable : Value β → Prop
  | .str s => s.all plain = true
  | .other _ => False
  | _ => True

/-- The text of a string does not start a multi-line string, unless it starts with a mark. -/
theorem take_three_ne {s rest : List Char} (hs : s.head? ≠ some '"') :
    ('"' :: (s ++ '"' :: '\n' :: rest)).take 3 ≠ ['"', '"', '"'] := by
  cases s with
  | nil => simp
  | cons c s =>
      intro h
      obtain rfl : c = '"' := by simpa using (List.cons.inj (List.cons.inj h).2).1
      simp at hs

theorem value_str {s rest : List Char} (hs : s.head? ≠ some '"') :
    value other ('"' :: (s ++ '"' :: '\n' :: rest)) =
      (basicString .text (s ++ '"' :: '\n' :: rest)).map fun r => (.str r.1, r.2) := by
  unfold value
  rw [if_neg (take_three_ne hs)]
  rfl

/-- The text of a printable value reads as that value. -/
theorem value_text {v : Value β} (hv : v.Printable) (rest : List Char) :
    value other (v.text ++ '\n' :: rest) = some (v, '\n' :: rest) := by
  cases v with
  | str s =>
      have hs : s.all plain = true := hv
      have hhead : s.head? ≠ some '"' := by
        cases s with
        | nil => simp
        | cons c s =>
            rw [List.all_cons, Bool.and_eq_true] at hs
            simpa using (ne_of_plain hs.1).1
      have htext : (Value.str s : Value β).text ++ '\n' :: rest =
          '"' :: (s ++ '"' :: '\n' :: rest) := by simp [Value.text]
      rw [htext, value_str hhead, basicString_plain hs]
      rfl
  | int z =>
      have hread : decimal ((toString z).toList ++ '\n' :: rest) = some (z, '\n' :: rest) :=
        decimal_toString z rfl
      -- the first character is a digit or a minus sign, so no other reader is tried
      obtain ⟨c, cs, hc, hfirst⟩ := head_toString z
      have hne : c ≠ '"' ∧ c ≠ 't' ∧ c ≠ 'f' := by
        refine ⟨?_, ?_, ?_⟩ <;>
          · intro heq
            subst heq
            revert hfirst
            decide
      have htext : (Value.int z : Value β).text = c :: cs := hc
      rw [htext]
      rw [hc] at hread
      unfold value
      rw [hread]
      simp [hne.1, hne.2.1.symm, hne.2.2.symm]
  | bool b =>
      cases b <;> simp [Value.text, value]
  | other v => exact absurd hv id

/-- The text of a printable value does not start with a blank. -/
theorem skipBlank_text {v : Value β} (hv : v.Printable) (rest : List Char) :
    skipBlank (v.text ++ rest) = v.text ++ rest := by
  obtain ⟨c, cs, hc, hfirst⟩ : ∃ c cs, v.text = c :: cs ∧ isBlank c = false := by
    cases v with
    | str s => exact ⟨'"', s ++ ['"'], rfl, rfl⟩
    | int z =>
        obtain ⟨c, cs, hc, hfirst⟩ := head_toString z
        refine ⟨c, cs, hc, ?_⟩
        rw [Bool.eq_false_iff]
        intro hb
        simp only [isBlank, Bool.or_eq_true, decide_eq_true_eq] at hb
        rcases hb with rfl | rfl <;> revert hfirst <;> decide
    | bool b => cases b <;> exact ⟨_, _, rfl, rfl⟩
    | other v => exact absurd hv id
  unfold skipBlank
  rw [hc, List.cons_append, List.dropWhile_cons, hfirst]
  rfl

/-- A line of a plain form. -/
inductive Line (β : Type)
  | blank
  | assign (ks : List (List Char)) (v : Value β)
  | element (ks : List (List Char))

namespace Line

def text : Line β → List Char
  | blank => []
  | assign ks v => dotted ks ++ " = ".toList ++ v.text
  | element ks => "[[".toList ++ dotted ks ++ "]]".toList

def Printable : Line β → Prop
  | blank => True
  | assign ks v => BareKey ks ∧ v.Printable
  | element ks => BareKey ks

/-- What the line defines. -/
def run : Line β → Doc β × Path → Option (Doc β × Path)
  | blank, st => some st
  | assign ks v, st => (Toml.assign st.2 ks v st.1).map fun doc => (doc, st.2)
  | element ks, st => openElement ks st.1

end Line

/-- An assignment is read up to the text of its value. -/
theorem expression_assign {ks : List (List Char)} (h : BareKey ks) (st : Doc β × Path)
    (cs : List Char) :
    expression other st (dotted ks ++ " = ".toList ++ cs) =
      (value other (skipBlank cs)).bind fun v => (assign st.2 ks v.1 st.1).bind fun doc =>
        (endLine v.2).bind fun rest => some ((doc, st.2), rest) := by
  have heq : " = ".toList = [' ', '=', ' '] := rfl
  have hlen : ks.length ≤ (dotted ks ++ ' ' :: '=' :: ' ' :: cs).length := by
    have := length_le_dotted h
    rw [List.length_append]
    omega
  have hskip : skipBlank (' ' :: '=' :: ' ' :: cs) = '=' :: ' ' :: cs := rfl
  have hkey : key _ (dotted ks ++ ' ' :: '=' :: ' ' :: cs) = some (ks, _) :=
    key_dotted h hlen rfl (by simp [hskip])
  have hblank : skipBlank (' ' :: cs) = skipBlank cs := rfl
  have hassign : assignment other st.2 st.1 (dotted ks ++ ' ' :: '=' :: ' ' :: cs) =
      (value other (skipBlank cs)).bind fun v => (assign st.2 ks v.1 st.1).bind fun doc =>
        (endLine v.2).bind fun rest => some ((doc, st.2), rest) := by
    unfold assignment
    rw [hkey, hskip]
    simp only [Option.bind_eq_bind, Option.bind_some, hblank, Option.pure_def]
  rw [heq, List.append_assoc, List.cons_append, List.cons_append, List.cons_append,
    List.nil_append, ← hassign]
  -- the first character of a bare key starts neither a header nor a comment
  cases ks with
  | nil => exact absurd rfl h.1
  | cons k ks =>
      obtain ⟨c, k', rfl, hc, -⟩ := h.head
      obtain ⟨t, ht⟩ : ∃ t, dotted ((c :: k') :: ks) ++ ' ' :: '=' :: ' ' :: cs = c :: t := by
        cases ks <;> simp [dotted, List.intercalate, List.intersperse]
      obtain ⟨-, -, -, hbracket, hhash, hnl, hcr⟩ := isBare_ne hc
      rw [ht]
      unfold expression
      rw [skipBlank_of_bare hc]
      split
      · rename_i hnil
        simp at hnil
      · rename_i heq
        exact absurd (List.cons.inj heq).1 hbracket
      · rename_i heq
        exact absurd (List.cons.inj heq).1 hbracket
      · rename_i heq
        obtain ⟨rfl, rfl⟩ := List.cons.inj heq
        simp [hhash, hnl, hcr]

/-- A printed line reads as that line. -/
theorem expression_text {l : Line β} (hl : l.Printable) (st : Doc β × Path) (rest : List Char) :
    expression other st (l.text ++ '\n' :: rest) = (l.run st).map fun st' => (st', rest) := by
  cases l with
  | blank => rfl
  | assign ks v =>
      obtain ⟨hks, hv⟩ := hl
      rw [Line.text, List.append_assoc, expression_assign hks, skipBlank_text hv, value_text hv]
      simp only [Option.bind_some, Line.run]
      cases Toml.assign st.2 ks v st.1 <;> rfl
  | element ks =>
      have hks : BareKey ks := hl
      have hlen : ks.length ≤ (dotted ks ++ ']' :: ']' :: '\n' :: rest).length := by
        have := length_le_dotted hks
        rw [List.length_append]
        omega
      have hskip : skipBlank (']' :: ']' :: '\n' :: rest) = ']' :: ']' :: '\n' :: rest := rfl
      have hkey : key _ (dotted ks ++ ']' :: ']' :: '\n' :: rest) = some (ks, _) :=
        key_dotted hks hlen rfl (by simp [hskip])
      have htext : (Line.element ks : Line β).text ++ '\n' :: rest =
          '[' :: '[' :: (dotted ks ++ ']' :: ']' :: '\n' :: rest) := by
        simp [Line.text]
      have hhead : header 2 openElement st.1 (dotted ks ++ ']' :: ']' :: '\n' :: rest) =
          (openElement ks st.1).bind fun st' => some (st', rest) := by
        unfold header
        rw [hkey]
        rfl
      rw [htext]
      exact hhead.trans (by cases h : openElement ks st.1 <;> simp [Line.run, h])

/-! ### Plain documents -/

/-- The text of a sequence of lines. -/
def linesText (ls : List (Line β)) : List Char := ls.flatMap fun l => l.text ++ ['\n']

/-- What a sequence of lines defines. -/
def runLines (ls : List (Line β)) (st : Doc β × Path) : Option (Doc β × Path) :=
  ls.foldlM (fun st l => l.run st) st

theorem runLines_append (ls ls' : List (Line β)) (st : Doc β × Path) :
    runLines (ls ++ ls') st = (runLines ls st).bind (runLines ls') := by
  unfold runLines
  rw [List.foldlM_append]
  rfl

theorem document_succ {n : ℕ} {st : Doc β × Path} {cs : List Char} (h : cs ≠ []) :
    document other (n + 1) st cs =
      (expression other st cs).bind fun r => document other n r.1 r.2 := by
  cases cs with
  | nil => exact absurd rfl h
  | cons c cs =>
      rw [document]
      cases expression other st (c :: cs) <;> rfl

/-- A document that starts with printed lines reads as those lines and then the rest. -/
theorem document_text {ls : List (Line β)} (h : ∀ l ∈ ls, l.Printable) (n : ℕ)
    (st : Doc β × Path) (rest : List Char) :
    document other (n + ls.length) st (linesText ls ++ rest) =
      (runLines ls st).bind fun st' => document other n st' rest := by
  induction ls generalizing st with
  | nil => rfl
  | cons l ls ih =>
      have hl : l.Printable := h l List.mem_cons_self
      have htext : linesText (l :: ls) ++ rest = l.text ++ '\n' :: (linesText ls ++ rest) := by
        simp [linesText]
      rw [htext, List.length_cons, ← Nat.add_assoc, document_succ (by simp),
        expression_text hl]
      unfold runLines
      rw [List.foldlM_cons]
      cases l.run st with
      | none => rfl
      | some st' => exact ih (fun l' hl' => h l' (List.mem_cons_of_mem _ hl')) st'

theorem length_le_linesText (ls : List (Line β)) : ls.length ≤ (linesText ls).length := by
  induction ls with
  | nil => simp
  | cons l ls ih =>
      have htext : linesText (l :: ls) = l.text ++ '\n' :: linesText ls := by simp [linesText]
      rw [htext]
      simp only [List.length_append, List.length_cons]
      omega

/-- **Printed lines read as those lines.** -/
theorem parse_linesText {ls : List (Line β)} (h : ∀ l ∈ ls, l.Printable) :
    parse other (linesText ls) = (runLines ls ([], [])).map Prod.fst := by
  obtain ⟨n, hn⟩ : ∃ n, (linesText ls).length = n + ls.length :=
    ⟨(linesText ls).length - ls.length, by have := length_le_linesText ls; omega⟩
  have hread : document other _ _ _ = _ := document_text h n ([], []) []
  rw [List.append_nil, ← hn] at hread
  unfold parse
  rw [hread]
  cases runLines ls ([], []) with
  | none => rfl
  | some st => cases n <;> rfl

/-- What is known of a document in which, behind printed lines, an assignment of a text between
quotation marks is on a line of its own: a string was read and assigned. -/
theorem exists_of_parse_str {ls : List (Line β)} (h : ∀ l ∈ ls, l.Printable)
    {st : Doc β × Path} (hrun : runLines ls ([], []) = some st) {ks : List (List Char)}
    (hks : BareKey ks) {s rest : List Char} (hs : s.head? ≠ some '"') {doc : Doc β}
    (hparse : parse other (linesText ls ++
      (dotted ks ++ " = ".toList ++ '"' :: (s ++ '"' :: '\n' :: rest))) = some doc) :
    ∃ v more doc', basicString .text (s ++ '"' :: '\n' :: rest) = some (v, more) ∧
      assign st.2 ks (.str v) st.1 = some doc' ∧ doc' <+: doc := by
  have htail : dotted ks ++ " = ".toList ++ '"' :: (s ++ '"' :: '\n' :: rest) ≠ [] := by simp
  have hexpr : expression other st _ = _ :=
    expression_assign hks st ('"' :: (s ++ '"' :: '\n' :: rest))
  generalize dotted ks ++ " = ".toList ++ '"' :: (s ++ '"' :: '\n' :: rest) = tail at *
  obtain ⟨n, hn⟩ : ∃ n, (linesText ls ++ tail).length = n + 1 + ls.length := by
    refine ⟨(linesText ls ++ tail).length - 1 - ls.length, ?_⟩
    have hlen := length_le_linesText ls
    have hpos := List.length_pos_iff.2 htail
    rw [List.length_append]
    omega
  unfold parse at hparse
  rw [hn, document_text h, hrun, Option.bind_some, document_succ htail, hexpr] at hparse
  have hskip : skipBlank ('"' :: (s ++ '"' :: '\n' :: rest)) =
      '"' :: (s ++ '"' :: '\n' :: rest) := rfl
  rw [hskip, value_str hs] at hparse
  obtain ⟨r, hr, hparse⟩ := Option.bind_eq_some_iff.1 hparse
  obtain ⟨v, hv, hr⟩ := Option.bind_eq_some_iff.1 hr
  obtain ⟨w, hw, rfl⟩ := Option.map_eq_some_iff.1 hv
  obtain ⟨doc', hassign, hr⟩ := Option.bind_eq_some_iff.1 hr
  obtain ⟨rest', -, hr⟩ := Option.bind_eq_some_iff.1 hr
  obtain rfl := Option.some.inj hr
  exact ⟨w.1, w.2, doc', hw, hassign, prefix_of_document hparse⟩

end

end Toml
