/-
**TOML documents.**

A document is a sequence of lines: blank lines and comments, assignments to dotted keys, and the
headers of tables and of elements of arrays of tables.  Its meaning is the list of what it defines
in order, every definition at the full path of its key, with the rules that keep a key, a table and
an array from being defined twice.

Basic strings, decimal integers and booleans are read here.  The other values (literal and
multi-line strings, floats, dates, arrays, inline tables) are read by a parameter.

Main definitions:

* `Toml.basicString` — basic strings with their escape sequences;
* `Toml.key`, `Toml.value`, `Toml.expression`, `Toml.parse` — the reader;
* `Toml.assign`, `Toml.openTable`, `Toml.openElement` — the definitions a line makes.

Main results:

* `Toml.basicString_plain`, `Toml.plain_of_basicString` — **a text between quotation marks at the
  end of a line reads as itself exactly when all its characters are plain**;
* `Toml.prefix_of_document` — what a document defined stays defined.
-/

import Mathlib.Data.List.Basic
import Mathlib.Data.List.Infix
import Mathlib.Tactic

set_option relaxedAutoImplicit false
set_option autoImplicit false

namespace Toml

/-! ### Strings -/

/-- Control characters other than tab. -/
def isControl (c : Char) : Bool := c ≠ '\t' && (c.toNat < 32 || c.toNat = 127)

/-- A character that stands for itself in a basic string. -/
def plain (c : Char) : Bool := c ≠ '"' && c ≠ '\\' && !isControl c

def isHex (c : Char) : Bool :=
  c.isDigit || ('a' ≤ c && c ≤ 'f') || ('A' ≤ c && c ≤ 'F')

def hexValue (c : Char) : ℕ :=
  if c.isDigit then c.toNat - '0'.toNat
  else if 'a' ≤ c then c.toNat - 'a'.toNat + 10
  else c.toNat - 'A'.toNat + 10

/-- The character a one-letter escape sequence stands for. -/
def escaped (c : Char) : Option Char :=
  if c = 'b' then some (Char.ofNat 8)
  else if c = 't' then some '\t'
  else if c = 'n' then some '\n'
  else if c = 'f' then some (Char.ofNat 12)
  else if c = 'r' then some '\r'
  else if c = '"' then some '"'
  else if c = '\\' then some '\\'
  else none

/-- Where a reader of a basic string is: in its text, behind a backslash, or in the digits of a
Unicode escape with so many to go and this value so far. -/
inductive Scan
  | text
  | escape
  | hex (left value : ℕ)

/-- Put a character in front of the string that was read. -/
def consFst (c : Char) (r : List Char × List Char) : List Char × List Char := (c :: r.1, r.2)

/-- The rest of a basic string behind its opening mark, and the text behind its closing one. -/
def basicString : Scan → List Char → Option (List Char × List Char)
  | _, [] => none
  | .text, c :: cs =>
      if c = '"' then some ([], cs)
      else if c = '\\' then basicString .escape cs
      else if plain c then (basicString .text cs).map (consFst c)
      else none
  | .escape, c :: cs =>
      if c = 'u' then basicString (.hex 4 0) cs
      else if c = 'U' then basicString (.hex 8 0) cs
      else
        match escaped c with
        | some d => (basicString .text cs).map (consFst d)
        | none => none
  | .hex left v, c :: cs =>
      if isHex c = false then none
      else if 1 < left then basicString (.hex (left - 1) (16 * v + hexValue c)) cs
      else if (16 * v + hexValue c).isValidChar then
        (basicString .text cs).map (consFst (Char.ofNat (16 * v + hexValue c)))
      else none

theorem ne_of_plain {c : Char} (h : plain c = true) : c ≠ '"' ∧ c ≠ '\\' := by
  unfold plain at h
  simp only [Bool.and_eq_true, decide_eq_true_eq] at h
  exact h.1

/-- A text of plain characters reads as itself. -/
theorem basicString_plain {s more : List Char} (h : s.all plain = true) :
    basicString .text (s ++ '"' :: more) = some (s, more) := by
  induction s with
  | nil => rfl
  | cons c s ih =>
      rw [List.all_cons, Bool.and_eq_true] at h
      obtain ⟨hquote, hslash⟩ := ne_of_plain h.1
      simp [basicString, hquote, hslash, h.1, ih h.2, consFst]

/-- Reading `s` up to a quotation mark at the end of a line yields at most as many characters as
`s` has: an escape sequence stands for one character and takes several. -/
theorem length_of_basicString {s more : List Char} {st : Scan} {r : List Char × List Char}
    (h : basicString st (s ++ '"' :: '\n' :: more) = some r) : r.1.length ≤ s.length := by
  induction s generalizing st r with
  | nil =>
      cases st with
      | text =>
          obtain rfl : ([], '\n' :: more) = r := by simpa [basicString] using h
          simp
      | escape =>
          -- the mark would be escaped, and a line break cannot be part of the string
          simp [basicString, escaped, plain, isControl] at h
      | hex left v => simp [basicString, isHex] at h
  | cons c s ih =>
      rw [List.cons_append] at h
      cases st with
      | text =>
          rw [basicString] at h
          split_ifs at h with hquote hslash hplain
          · obtain rfl := Option.some.inj h
            simp
          · have := ih h
            simp only [List.length_cons]
            omega
          · obtain ⟨r', hr', rfl⟩ := Option.map_eq_some_iff.1 h
            simpa [consFst] using ih hr'
      | escape =>
          rw [basicString] at h
          split_ifs at h with h4 h8
          · have := ih h
            simp only [List.length_cons]
            omega
          · have := ih h
            simp only [List.length_cons]
            omega
          · split at h
            · obtain ⟨r', hr', rfl⟩ := Option.map_eq_some_iff.1 h
              simpa [consFst] using ih hr'
            · simp at h
      | hex left v =>
          rw [basicString] at h
          split_ifs at h with hhex hleft hvalid
          · have := ih h
            simp only [List.length_cons]
            omega
          · obtain ⟨r', hr', rfl⟩ := Option.map_eq_some_iff.1 h
            simpa [consFst] using ih hr'

/-- A text that reads as itself, up to a quotation mark at the end of a line, is plain. -/
theorem plain_of_basicString {s more rest : List Char}
    (h : basicString .text (s ++ '"' :: '\n' :: more) = some (s, rest)) :
    s.all plain = true := by
  induction s with
  | nil => rfl
  | cons c s ih =>
      rw [List.cons_append, basicString] at h
      split_ifs at h with hquote hslash hplain
      · simp at h
      · have := length_of_basicString h
        simp at this
      · obtain ⟨r, hr, heq⟩ := Option.map_eq_some_iff.1 h
        obtain ⟨hs, hrest⟩ := Prod.mk.inj heq
        obtain ⟨-, hs⟩ := List.cons.inj hs
        rw [List.all_cons, hplain, Bool.true_and]
        refine ih ?_
        rw [hr, ← hs, ← hrest]

/-! ### Keys -/

/-- The blanks inside a line. -/
def isBlank (c : Char) : Bool := c = ' ' || c = '\t'

def skipBlank (cs : List Char) : List Char := cs.dropWhile isBlank

/-- A character of a bare key. -/
def isBare (c : Char) : Bool := c.isAlphanum || c = '_' || c = '-'

/-- The rest of a literal string behind its opening apostrophe, and the text behind its closing
one. -/
def literalString : List Char → Option (List Char × List Char)
  | [] => none
  | c :: cs =>
      if c = Char.ofNat 39 then some ([], cs)
      else if isControl c then none
      else (literalString cs).map (consFst c)

/-- One part of a key: bare, or a string on one line. -/
def simpleKey (cs : List Char) : Option (List Char × List Char) :=
  if cs.head? = some '"' then basicString .text cs.tail
  else if cs.head? = some (Char.ofNat 39) then literalString cs.tail
  else if cs.takeWhile isBare = [] then none
  else some (cs.takeWhile isBare, cs.dropWhile isBare)

/-- A key of at most so many parts, and the text behind it and the blanks that follow. -/
def key : ℕ → List Char → Option (List (List Char) × List Char)
  | 0, _ => none
  | n + 1, cs =>
      match simpleKey (skipBlank cs) with
      | none => none
      | some (k, rest) =>
          match skipBlank rest with
          | '.' :: rest' => (key n rest').map fun r => (k :: r.1, r.2)
          | rest' => some ([k], rest')

/-! ### Values -/

/-- A value; the type `β` is that of the values read by the parameter. -/
inductive Value (β : Type)
  | str (s : List Char)
  | int (z : ℤ)
  | bool (b : Bool)
  | other (v : β)

/-- What can follow a value on its line. -/
def endsValue : List Char → Bool
  | [] => true
  | c :: _ => isBlank c || c = '#' || c = '\n' || c = '\r'

/-- Digits without a leading zero that end a value. -/
def digits (cs : List Char) : Option (ℕ × List Char) :=
  let ds := cs.takeWhile Char.isDigit
  let rest := cs.dropWhile Char.isDigit
  if ds ≠ [] ∧ (ds.head? = some '0' → ds.length = 1) ∧ endsValue rest = true then
    some (Nat.ofDigitChars 10 ds 0, rest)
  else none

/-- A decimal integer that ends a value. -/
def decimal : List Char → Option (ℤ × List Char)
  | [] => none
  | c :: cs =>
      if c = '-' then (digits cs).map fun r => (-(r.1 : ℤ), r.2)
      else (digits (c :: cs)).map fun r => ((r.1 : ℤ), r.2)

section

variable {β : Type} (other : List Char → Option (Value β × List Char))

/-- A value, and the text behind it. -/
def value (cs : List Char) : Option (Value β × List Char) :=
  if cs.take 3 = ['"', '"', '"'] then other cs
  else if cs.head? = some '"' then
    (basicString .text cs.tail).map fun r => (.str r.1, r.2)
  else if "true".toList <+: cs then some (.bool true, cs.drop 4)
  else if "false".toList <+: cs then some (.bool false, cs.drop 5)
  else
    match decimal cs with
    | some r => some (.int r.1, r.2)
    | none => other cs

end

/-! ### Definitions -/

/-- A step of a path: into a table, or to an element of an array of tables. -/
inductive Step
  | name (k : List Char)
  | elem (i : ℕ)
  deriving DecidableEq

abbrev Path := List Step

/-- How a table came about: on the way to another header, by a dotted key, or by its header. -/
inductive Origin
  | implicit
  | dotted
  | header
  deriving DecidableEq

/-- What is defined at a path. -/
inductive Item (β : Type)
  | value (v : Value β)
  | table (o : Origin)
  /-- one more element of an array of tables -/
  | element

/-- What a document defines, in order. -/
abbrev Doc (β : Type) := List (Path × Item β)

section

variable {β : Type} (doc : Doc β) (p : Path)

/-- Something is defined at the path. -/
def isDefined : Bool := doc.any fun e => e.1 = p

def isValue : Bool := doc.any fun e => e.1 = p && (match e.2 with | .value _ => true | _ => false)

def isTable (o : Origin) : Bool :=
  doc.any fun e => e.1 = p && (match e.2 with | .table o' => o' = o | _ => false)

/-- The number of elements of the array of tables. -/
def elements : ℕ :=
  doc.countP fun e => e.1 = p && (match e.2 with | .element => true | _ => false)

end

section

variable {β : Type}

/-- Walk to the table a header is in: through tables and the latest elements of arrays of tables,
defining the tables that are missing. -/
def descend : Doc β → Path → List (List Char) → Option (Doc β × Path)
  | doc, p, [] => some (doc, p)
  | doc, p, k :: ks =>
      let q := p ++ [.name k]
      if isValue doc q then none
      else if 0 < elements doc q then descend doc (q ++ [.elem (elements doc q - 1)]) ks
      else if isDefined doc q then descend doc q ks
      else descend (doc ++ [(q, .table .implicit)]) q ks

/-- Walk to the table a dotted key assigns in: only through tables that dotted keys may extend. -/
def descendDotted : Doc β → Path → List (List Char) → Option (Doc β × Path)
  | doc, p, [] => some (doc, p)
  | doc, p, k :: ks =>
      let q := p ++ [.name k]
      if isValue doc q ∨ 0 < elements doc q ∨ isTable doc q .header then none
      else if isTable doc q .dotted then descendDotted doc q ks
      else descendDotted (doc ++ [(q, .table .dotted)]) q ks

/-- `ks = v` in the table at `here`. -/
def assign (here : Path) (ks : List (List Char)) (v : Value β) (doc : Doc β) : Option (Doc β) := do
  let r ← descendDotted doc here ks.dropLast
  let p := r.2 ++ [.name (ks.getLastD [])]
  if isDefined r.1 p then none else pure (r.1 ++ [(p, .value v)])

/-- The header `[ks]`: the document and the path of the table. -/
def openTable (ks : List (List Char)) (doc : Doc β) : Option (Doc β × Path) := do
  let r ← descend doc [] ks.dropLast
  let p := r.2 ++ [.name (ks.getLastD [])]
  if isValue r.1 p ∨ 0 < elements r.1 p ∨ isTable r.1 p .header ∨ isTable r.1 p .dotted then none
  else pure (r.1 ++ [(p, .table .header)], p)

/-- The header `[[ks]]`: the document and the path of the new element. -/
def openElement (ks : List (List Char)) (doc : Doc β) : Option (Doc β × Path) := do
  let r ← descend doc [] ks.dropLast
  let p := r.2 ++ [.name (ks.getLastD [])]
  let q := p ++ [.elem (elements r.1 p)]
  if isDefined r.1 p ∧ elements r.1 p = 0 then none
  else pure (r.1 ++ [(p, .element), (q, .table .header)], q)

/-! ### Documents -/

variable (other : List Char → Option (Value β × List Char))

/-- The rest of a line: blanks, perhaps a comment, and the line break. -/
def endLine (cs : List Char) : Option (List Char) :=
  let cs := skipBlank cs
  match if cs.head? = some '#' then cs.dropWhile fun c => !isControl c else cs with
  | [] => some []
  | '\n' :: rest => some rest
  | '\r' :: '\n' :: rest => some rest
  | _ => none

/-- `ks = v` with the rest of its line, in the table at `here`. -/
def assignment (here : Path) (doc : Doc β) (cs : List Char) :
    Option ((Doc β × Path) × List Char) := do
  let r ← key cs.length cs
  match r.2 with
  | '=' :: rest =>
      let v ← value other (skipBlank rest)
      let doc' ← assign here r.1 v.1 doc
      let rest' ← endLine v.2
      pure ((doc', here), rest')
  | _ => none

/-- A header with the rest of its line; `n` brackets were opened. -/
def header (n : ℕ) (make : List (List Char) → Doc β → Option (Doc β × Path)) (doc : Doc β)
    (cs : List Char) : Option ((Doc β × Path) × List Char) := do
  let r ← key cs.length cs
  if r.2.take n = List.replicate n ']' then
    let st ← make r.1 doc
    let rest ← endLine (r.2.drop n)
    pure (st, rest)
  else none

/-- One line in the table at `st.2`: the document and the table behind it, and the lines that
follow. -/
def expression (st : Doc β × Path) (cs : List Char) : Option ((Doc β × Path) × List Char) :=
  match skipBlank cs with
  | [] => some (st, [])
  | '[' :: '[' :: rest => header 2 openElement st.1 rest
  | '[' :: rest => header 1 openTable st.1 rest
  | c :: rest =>
      if c = '#' ∨ c = '\n' ∨ c = '\r' then (endLine (c :: rest)).map fun r => (st, r)
      else assignment other st.2 st.1 (c :: rest)

/-- The lines of a document, at most `n` of them. -/
def document : ℕ → Doc β × Path → List Char → Option (Doc β)
  | _, st, [] => some st.1
  | 0, _, _ :: _ => none
  | n + 1, st, c :: cs =>
      match expression other st (c :: cs) with
      | some (st', rest) => document n st' rest
      | none => none

/-- A whole document: it has at most as many lines as characters. -/
def parse (cs : List Char) : Option (Doc β) := document other cs.length ([], []) cs

end

/-! ### What is defined stays defined -/

section

variable {β : Type} {doc doc' : Doc β} {p q : Path}

theorem prefix_of_descend {ks : List (List Char)} (h : descend doc p ks = some (doc', q)) :
    doc <+: doc' := by
  induction ks generalizing doc p with
  | nil =>
      obtain ⟨rfl, -⟩ := Prod.mk.inj (Option.some.inj h)
      exact List.prefix_rfl
  | cons k ks ih =>
      unfold descend at h
      simp only at h
      split_ifs at h with hv he hd
      · exact ih h
      · exact ih h
      · exact (List.prefix_append _ _).trans (ih h)

theorem prefix_of_descendDotted {ks : List (List Char)}
    (h : descendDotted doc p ks = some (doc', q)) : doc <+: doc' := by
  induction ks generalizing doc p with
  | nil =>
      obtain ⟨rfl, -⟩ := Prod.mk.inj (Option.some.inj h)
      exact List.prefix_rfl
  | cons k ks ih =>
      unfold descendDotted at h
      simp only at h
      split_ifs at h with hv hd
      · exact ih h
      · exact (List.prefix_append _ _).trans (ih h)

theorem prefix_of_assign {ks : List (List Char)} {v : Value β}
    (h : assign p ks v doc = some doc') : doc <+: doc' := by
  obtain ⟨r, hr, h⟩ := Option.bind_eq_some_iff.1 h
  simp only at h
  split_ifs at h
  obtain rfl := Option.some.inj h
  exact (prefix_of_descendDotted hr).trans (List.prefix_append _ _)

theorem prefix_of_openTable {ks : List (List Char)} (h : openTable ks doc = some (doc', q)) :
    doc <+: doc' := by
  obtain ⟨r, hr, h⟩ := Option.bind_eq_some_iff.1 h
  simp only at h
  split_ifs at h
  obtain ⟨rfl, -⟩ := Prod.mk.inj (Option.some.inj h)
  exact (prefix_of_descend hr).trans (List.prefix_append _ _)

theorem prefix_of_openElement {ks : List (List Char)} (h : openElement ks doc = some (doc', q)) :
    doc <+: doc' := by
  obtain ⟨r, hr, h⟩ := Option.bind_eq_some_iff.1 h
  simp only at h
  split_ifs at h
  obtain ⟨rfl, -⟩ := Prod.mk.inj (Option.some.inj h)
  exact (prefix_of_descend hr).trans (List.prefix_append _ _)

theorem prefix_of_header {n : ℕ} {make : List (List Char) → Doc β → Option (Doc β × Path)}
    {cs rest : List Char}
    (hmake : ∀ ks st, make ks doc = some st → doc <+: st.1)
    (h : header n make doc cs = some ((doc', q), rest)) : doc <+: doc' := by
  obtain ⟨r, -, h⟩ := Option.bind_eq_some_iff.1 h
  split_ifs at h
  obtain ⟨st, hst, h⟩ := Option.bind_eq_some_iff.1 h
  obtain ⟨rest', -, h⟩ := Option.bind_eq_some_iff.1 h
  obtain ⟨rfl, -⟩ := Prod.mk.inj (Option.some.inj h)
  exact hmake _ _ hst

variable {other : List Char → Option (Value β × List Char)}

theorem prefix_of_assignment {cs rest : List Char}
    (h : assignment other p doc cs = some ((doc', q), rest)) : doc <+: doc' := by
  obtain ⟨r, -, h⟩ := Option.bind_eq_some_iff.1 h
  split at h
  · obtain ⟨v, -, h⟩ := Option.bind_eq_some_iff.1 h
    obtain ⟨doc'', hassign, h⟩ := Option.bind_eq_some_iff.1 h
    obtain ⟨rest', -, h⟩ := Option.bind_eq_some_iff.1 h
    obtain ⟨hst, -⟩ := Prod.mk.inj (Option.some.inj h)
    obtain ⟨rfl, -⟩ := Prod.mk.inj hst
    exact prefix_of_assign hassign
  · simp at h

theorem prefix_of_expression {st st' : Doc β × Path} {cs rest : List Char}
    (h : expression other st cs = some (st', rest)) : st.1 <+: st'.1 := by
  unfold expression at h
  split at h
  · obtain ⟨rfl, -⟩ := Prod.mk.inj (Option.some.inj h)
    exact List.prefix_rfl
  · exact prefix_of_header (fun _ _ => prefix_of_openElement) h
  · exact prefix_of_header (fun _ _ => prefix_of_openTable) h
  · split_ifs at h
    · obtain ⟨r, -, heq⟩ := Option.map_eq_some_iff.1 h
      obtain ⟨rfl, -⟩ := Prod.mk.inj heq
      exact List.prefix_rfl
    · exact prefix_of_assignment h

/-- What a document defined stays defined. -/
theorem prefix_of_document {n : ℕ} {st : Doc β × Path} {cs : List Char}
    (h : document other n st cs = some doc) : st.1 <+: doc := by
  induction n generalizing st cs with
  | zero =>
      cases cs with
      | nil =>
          obtain rfl := Option.some.inj h
          exact List.prefix_rfl
      | cons c cs => simp [document] at h
  | succ n ih =>
      cases cs with
      | nil =>
          obtain rfl := Option.some.inj h
          exact List.prefix_rfl
      | cons c cs =>
          rw [document] at h
          split at h
          · rename_i st' rest hexpr
            exact (prefix_of_expression hexpr).trans (ih h)
          · simp at h

end

end Toml
