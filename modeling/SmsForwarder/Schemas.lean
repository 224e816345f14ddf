/-
**The request bodies of the device and tunnel endpoints.**

The request models of `app.schemas.device` and `app.schemas.tunnel`: a value of these types is a
body that validation accepted.  Bounds and formats are part of the types, so a service never meets
a body it would have been spared.  The one format with a grammar of its own is `local_ip`, which
`ip_address` of the standard library decides.

Main definitions:

* `SmsForwarder.ipAddress`, `SmsForwarder.IpAddress.isLoopback`, `SmsForwarder.IpAddress.isPrivate`
  — the addresses of `ipaddress`, scoped IPv6 addresses included;
* `SmsForwarder.validateLocalIp`, `SmsForwarder.LocalIp` — the `local_ip` validator and the texts
  it lets through;
* `SmsForwarder.DeviceCreate`, `SmsForwarder.DeviceUpdate`, `SmsForwarder.TunnelEnableIn`,
  `SmsForwarder.TunnelUpdateIn` — the accepted bodies.

Main results:

* `SmsForwarder.LocalIp.head_text` — an accepted `local_ip` starts with a hexadecimal digit, a colon
  or the letter `l`.
-/

import Mathlib.Data.List.DropRight
import SmsForwarder.Store

set_option relaxedAutoImplicit false
set_option autoImplicit false

namespace SmsForwarder

/-! ### `ipaddress` -/

/-- An address of the `ipaddress` module; the scope of an IPv6 address plays no part in what is
asked of it here. -/
inductive IpAddress
  | v4 (ip : ℕ)
  | v6 (ip : ℕ)

/-- `IPv4Address._parse_octet`. -/
def parseOctet (octet : List Char) : Option ℕ :=
  if octet = [] ∨ octet.all Char.isDigit = false ∨ 3 < octet.length ∨
      (octet ≠ ['0'] ∧ octet.head? = some '0') then none
  else if Nat.ofDigitChars 10 octet 0 ≤ 255 then some (Nat.ofDigitChars 10 octet 0)
  else none

/-- `IPv4Address._ip_int_from_string`. -/
def ipv4Int (text : List Char) : Option ℕ :=
  match text.splitOn '.' with
  | [a, b, c, d] => do
      let a ← parseOctet a
      let b ← parseOctet b
      let c ← parseOctet c
      let d ← parseOctet d
      pure (((a * 256 + b) * 256 + c) * 256 + d)
  | _ => none

def isHexDigit (c : Char) : Bool :=
  c.isDigit || ('a' ≤ c && c ≤ 'f') || ('A' ≤ c && c ≤ 'F')

def hexDigitValue (c : Char) : ℕ :=
  if c.isDigit then c.toNat - '0'.toNat
  else if 'a' ≤ c then c.toNat - 'a'.toNat + 10
  else c.toNat - 'A'.toNat + 10

/-- `IPv6Address._parse_hextet`; `int` refuses the empty text. -/
def parseHextet (hextet : List Char) : Option ℕ :=
  if hextet.all isHexDigit = false ∨ 4 < hextet.length ∨ hextet = [] then none
  else some (hextet.foldl (fun n c => n * 16 + hexDigitValue c) 0)

/-- The value of consecutive hextets, continuing from `ip`. -/
def hextetsInt : ℕ → List (List Char) → Option ℕ
  | ip, [] => some ip
  | ip, hextet :: rest =>
      match parseHextet hextet with
      | some n => hextetsInt (ip * 65536 + n) rest
      | none => none

/-- The parts between the colons, an IPv4 address at the end written as two hextets. -/
def ipv6Parts (text : List Char) : Option (List (List Char)) :=
  let parts := text.splitOn ':'
  let last := parts.getLast?.getD []
  if parts.length < 3 then none
  else if '.' ∈ last then
    match ipv4Int last with
    | some v4 => some (parts.dropLast ++
        [Nat.toDigits 16 (v4 / 65536), Nat.toDigits 16 (v4 % 65536)])
    | none => none
  else some parts

/-- The positions strictly inside the list where the part is empty. -/
def skipIndices (parts : List (List Char)) : List ℕ :=
  (List.range parts.length).filter fun i =>
    0 < i && i + 1 < parts.length && parts.getD i [] = []

/-- The hextets before the `::` at position `i`. -/
def partsHi (parts : List (List Char)) (i : ℕ) : Option (List (List Char)) :=
  if parts.head?.getD [] = [] then (if i = 1 then some [] else none) else some (parts.take i)

/-- The hextets after the `::` at position `i`. -/
def partsLo (parts : List (List Char)) (i : ℕ) : Option (List (List Char)) :=
  if parts.getLast?.getD [] = [] then (if parts.length = i + 2 then some [] else none)
  else some (parts.drop (i + 1))

/-- `IPv6Address._ip_int_from_string`. -/
def ipv6Int (text : List Char) : Option ℕ := do
  let parts ← ipv6Parts text
  if 9 < parts.length then none
  else
    match skipIndices parts with
    | [] => if parts.length = 8 then hextetsInt 0 parts else none
    | [i] => do
        let hi ← partsHi parts i
        let lo ← partsLo parts i
        if 8 ≤ hi.length + lo.length then none
        else
          let ip ← hextetsInt 0 hi
          hextetsInt (ip * 65536 ^ (8 - (hi.length + lo.length))) lo
    | _ => none

/-- The part of an IPv6 address in front of the scope mark. -/
def beforeScope (text : List Char) : List Char := text.takeWhile (· ≠ '%')

/-- `IPv6Address.__init__` and `_split_scope_id`: the scope is any non-empty text without a
second mark. -/
def ipv6Address (text : List Char) : Option ℕ :=
  if '/' ∈ text then none
  else
    match text.dropWhile (· ≠ '%') with
    | [] => ipv6Int text
    | _ :: scope => if scope = [] ∨ '%' ∈ scope then none else ipv6Int (beforeScope text)

/-- `ipaddress.ip_address`. -/
def ipAddress (text : List Char) : Option IpAddress :=
  match ipv4Int text with
  | some ip => some (.v4 ip)
  | none => (ipv6Address text).map .v6

/-- Whether the `bits`-bit address `ip` lies in the network `net/len`. -/
def inNetwork (bits ip net len : ℕ) : Bool := ip / 2 ^ (bits - len) = net / 2 ^ (bits - len)

/-- The private IPv4 networks, and the parts of them that are global. -/
def isPrivateV4 (ip : ℕ) : Bool :=
  [(0, 8), (0x0a000000, 8), (0x7f000000, 8), (0xa9fe0000, 16), (0xac100000, 12), (0xc0000000, 24),
    (0xc00000aa, 31), (0xc0000200, 24), (0xc0a80000, 16), (0xc6120000, 15), (0xc6336400, 24),
    (0xcb007100, 24), (0xf0000000, 4), (0xffffffff, 32)].any (fun n => inNetwork 32 ip n.1 n.2) &&
  !([(0xc0000009, 32), (0xc000000a, 32)].any fun n => inNetwork 32 ip n.1 n.2)

/-- The private IPv6 networks, and the parts of them that are global. -/
def isPrivateV6 (ip : ℕ) : Bool :=
  [(1, 128), (0, 128), (0xffff * 2 ^ 32, 96), (0x0064ff9b0001 * 2 ^ 80, 48), (0x100 * 2 ^ 112, 64),
    (0x2001 * 2 ^ 112, 23), (0x20010db8 * 2 ^ 96, 32), (0x2002 * 2 ^ 112, 16),
    (0x3fff * 2 ^ 112, 20), (0xfc00 * 2 ^ 112, 7), (0xfe80 * 2 ^ 112, 10)].any
      (fun n => inNetwork 128 ip n.1 n.2) &&
  !([(0x20010001 * 2 ^ 96 + 1, 128), (0x20010001 * 2 ^ 96 + 2, 128), (0x20010003 * 2 ^ 96, 32),
    (0x200100040112 * 2 ^ 80, 48), (0x20010020 * 2 ^ 96, 28), (0x20010030 * 2 ^ 96, 28)].any
      fun n => inNetwork 128 ip n.1 n.2)

namespace IpAddress

/-- `is_private`; a mapped IPv4 address is judged as that address. -/
def isPrivate : IpAddress → Bool
  | v4 ip => isPrivateV4 ip
  | v6 ip => if ip / 2 ^ 32 = 0xffff then isPrivateV4 (ip % 2 ^ 32) else isPrivateV6 ip

/-- `is_loopback`; a mapped IPv4 address is judged as that address. -/
def isLoopback : IpAddress → Bool
  | v4 ip => inNetwork 32 ip 0x7f000000 8
  | v6 ip => if ip / 2 ^ 32 = 0xffff then inNetwork 32 (ip % 2 ^ 32) 0x7f000000 8 else ip = 1

end IpAddress

/-! ### `local_ip` -/

/-- `str.isspace` of a character. -/
def isSpace (c : Char) : Bool :=
  let n := c.toNat
  (9 ≤ n && n ≤ 13) || (28 ≤ n && n ≤ 32) || n = 0x85 || n = 0xa0 || n = 0x1680 ||
    (0x2000 ≤ n && n ≤ 0x200a) || n = 0x2028 || n = 0x2029 || n = 0x202f || n = 0x205f ||
    n = 0x3000

/-- `str.strip`. -/
def strip (text : List Char) : List Char := (text.dropWhile isSpace).rdropWhile isSpace

/-- `_validate_local_ip`: the stripped text, if it names this host or a private address. -/
def validateLocalIp (value : String) : Option String :=
  let normalized := strip value.toList
  if normalized = "localhost".toList then some (String.ofList normalized)
  else
    match ipAddress normalized with
    | some parsed =>
        if parsed.isLoopback || parsed.isPrivate then some (String.ofList normalized) else none
    | none => none

/-- A `local_ip` that validation let through. -/
structure LocalIp where
  text : String
  accepted : ∃ value : String, value.length ≤ 64 ∧ validateLocalIp value = some text

/-- The default `local_ip`. -/
def LocalIp.default : LocalIp := ⟨"127.0.0.1", "127.0.0.1", by decide, by decide⟩

/-! ### The bodies -/

/-- A string of bounded length. -/
def BoundedStr (n : ℕ) := { s : String // s.length ≤ n }

/-- A TCP port. -/
def Port := { p : ℤ // 1 ≤ p ∧ p ≤ 65535 }

/-- The port the app on a phone listens on. -/
def Port.app : Port := ⟨5000, by decide⟩

/-- The least port frps gives to clients, with the default settings. -/
def Port.first : Port := ⟨17000, by decide⟩

/-- A field of a partial update: left out, or present with a possibly null value. -/
abbrev Patch (α : Type) := Option (Option α)

/-- An HTTP URL, as the text it is stored as. -/
structure HttpUrl where
  str : String
  nonempty : str ≠ ""

structure DeviceCreate where
  deviceName : Option (BoundedStr 255) := none
  channelType : String := "hybrid"
  baseUrl : Option HttpUrl := none
  signSecret : Option (BoundedStr 512) := none

structure DeviceUpdate where
  deviceName : Patch (BoundedStr 255) := none
  channelType : Patch String := none
  baseUrl : Patch HttpUrl := none
  signSecret : Patch (BoundedStr 512) := none

structure TunnelEnableIn where
  localIp : LocalIp
  localPort : Port
  remotePort : Option Port := none
  syncDeviceBaseUrl : Bool := true
  useEncryption : Bool := true
  useCompression : Bool := true

structure TunnelUpdateIn where
  localIp : Patch LocalIp := none
  localPort : Patch Port := none
  useEncryption : Patch Bool := none
  useCompression : Patch Bool := none

/-! ### How an accepted `local_ip` starts -/

/-- The first character of a text is that of its first part, or the separator. -/
theorem head_of_splitOn {text hd : List Char} {tl : List (List Char)} {a : Char}
    (h : text.splitOn a = hd :: tl) :
    (hd = [] ∧ (text = [] ∨ text.head? = some a)) ∨ (hd ≠ [] ∧ text.head? = hd.head?) := by
  cases text with
  | nil =>
      rw [List.splitOn_nil, List.cons.injEq] at h
      exact Or.inl ⟨h.1.symm, Or.inl rfl⟩
  | cons c cs =>
      rw [List.splitOn_cons_eq_if_modifyHead] at h
      split_ifs at h with hc
      · exact Or.inl ⟨(List.cons.inj h).1.symm, Or.inr (by simpa using hc)⟩
      · obtain ⟨hd', tl', hsplit⟩ := List.exists_cons_of_ne_nil (List.splitOn_ne_nil a cs)
        rw [hsplit, List.modifyHead_cons, List.cons.injEq] at h
        rw [← h.1]
        exact Or.inr ⟨by simp, by simp⟩

theorem head_of_ipv4Int {text : List Char} {ip : ℕ} (h : ipv4Int text = some ip) :
    ∃ c, text.head? = some c ∧ c.isDigit = true := by
  unfold ipv4Int at h
  split at h
  · rename_i a b c d hsplit
    obtain ⟨n, hn, -⟩ := Option.bind_eq_some_iff.1 h
    unfold parseOctet at hn
    split_ifs at hn with hbad
    push Not at hbad
    obtain ⟨hne, hdig, -⟩ := hbad
    obtain ⟨x, xs, rfl⟩ := List.exists_cons_of_ne_nil hne
    rcases head_of_splitOn hsplit with ⟨hnil, -⟩ | ⟨-, hhead⟩
    · simp at hnil
    · refine ⟨x, hhead, ?_⟩
      simp only [List.all_cons, ne_eq, Bool.not_eq_false, Bool.and_eq_true] at hdig
      exact hdig.1
  · simp at h

theorem head_of_parseHextet {hextet : List Char} {n : ℕ} (h : parseHextet hextet = some n) :
    ∃ c, hextet.head? = some c ∧ isHexDigit c = true := by
  unfold parseHextet at h
  split_ifs at h with hbad
  push Not at hbad
  obtain ⟨hhex, -, hne⟩ := hbad
  obtain ⟨x, xs, rfl⟩ := List.exists_cons_of_ne_nil hne
  simp only [List.all_cons, ne_eq, Bool.not_eq_false, Bool.and_eq_true] at hhex
  exact ⟨x, rfl, hhex.1⟩

theorem head_of_hextetsInt {ip m : ℕ} {hextet : List Char} {rest : List (List Char)}
    (h : hextetsInt ip (hextet :: rest) = some m) :
    ∃ c, hextet.head? = some c ∧ isHexDigit c = true := by
  unfold hextetsInt at h
  split at h
  · rename_i n hn
    exact head_of_parseHextet hn
  · simp at h

/-- The first part of an IPv6 address is the first of those that are read. -/
theorem head_of_ipv6Parts {text hd : List Char} {tl : List (List Char)}
    (h : ipv6Parts text = some (hd :: tl)) : ∃ tl', text.splitOn ':' = hd :: tl' ∧ tl' ≠ [] := by
  unfold ipv6Parts at h
  simp only at h
  split_ifs at h with hlen hdot
  · split at h
    · rename_i v4 hv4
      obtain ⟨x, xs, hsplit⟩ := List.exists_cons_of_ne_nil (List.splitOn_ne_nil ':' text)
      rw [hsplit] at h hlen ⊢
      cases xs with
      | nil => simp at hlen
      | cons y ys =>
          rw [List.dropLast_cons_cons, List.cons_append, Option.some.injEq, List.cons.injEq] at h
          exact ⟨y :: ys, by rw [h.1], by simp⟩
    · simp at h
  · rw [Option.some.injEq] at h
    refine ⟨tl, h, ?_⟩
    intro hnil
    rw [h, hnil] at hlen
    simp at hlen

theorem head_of_ipv6Int {text : List Char} {ip : ℕ} (h : ipv6Int text = some ip) :
    ∃ c, text.head? = some c ∧ (c = ':' ∨ isHexDigit c = true) := by
  obtain ⟨parts, hparts, h⟩ := Option.bind_eq_some_iff.1 h
  -- either the first part is empty, and the text starts with a colon, or it is a hextet
  have key : ∀ hd tl, parts = hd :: tl →
      (hd ≠ [] → ∃ c, hd.head? = some c ∧ isHexDigit c = true) →
        ∃ c, text.head? = some c ∧ (c = ':' ∨ isHexDigit c = true) := by
    intro hd tl hcons hhex
    rw [hcons] at hparts
    obtain ⟨tl', hsplit, hne⟩ := head_of_ipv6Parts hparts
    rcases head_of_splitOn hsplit with ⟨rfl, rfl | hcolon⟩ | ⟨hhd, hhead⟩
    · rw [List.splitOn_nil, List.cons.injEq] at hsplit
      exact absurd hsplit.2.symm hne
    · exact ⟨':', hcolon, Or.inl rfl⟩
    · obtain ⟨c, hc, hx⟩ := hhex hhd
      exact ⟨c, hhead.trans hc, Or.inr hx⟩
  by_cases hmany : 9 < parts.length
  · rw [if_pos hmany] at h
    simp at h
  rw [if_neg hmany] at h
  split at h
  · split_ifs at h with hlen
    cases parts with
    | nil => simp at hlen
    | cons hd tl => exact key hd tl rfl fun _ => head_of_hextetsInt h
  · rename_i i hskip
    obtain ⟨hi, hhi, hrest⟩ := Option.bind_eq_some_iff.1 h
    obtain ⟨lo, -, hread⟩ := Option.bind_eq_some_iff.1 hrest
    have hpos : 0 < i := by
      have hmem : i ∈ skipIndices parts := by simp [hskip]
      simp only [skipIndices, List.mem_filter, Bool.and_eq_true, decide_eq_true_eq] at hmem
      exact hmem.2.1.1
    cases parts with
    | nil => simp [skipIndices] at hskip
    | cons hd tl =>
        refine key hd tl rfl fun hne => ?_
        unfold partsHi at hhi
        simp only [List.head?_cons, Option.getD_some, hne, if_false, Option.some.injEq] at hhi
        obtain ⟨n, rfl⟩ : ∃ n, i = n + 1 := ⟨i - 1, by omega⟩
        rw [List.take_succ_cons] at hhi
        rw [← hhi] at hread
        split_ifs at hread
        obtain ⟨v, hv, -⟩ := Option.bind_eq_some_iff.1 hread
        exact head_of_hextetsInt hv
  · simp at h

/-- A character an address or `localhost` can start with. -/
def isAddressChar (c : Char) : Bool := isHexDigit c || c = ':' || c = 'l'

theorem head_of_ipAddress {text : List Char} {ip : IpAddress} (h : ipAddress text = some ip) :
    ∃ c, text.head? = some c ∧ isAddressChar c = true := by
  unfold ipAddress at h
  split at h
  · rename_i v4 hv4
    obtain ⟨c, hc, hdig⟩ := head_of_ipv4Int hv4
    exact ⟨c, hc, by simp [isAddressChar, isHexDigit, hdig]⟩
  · obtain ⟨v6, hv6, -⟩ := Option.map_eq_some_iff.1 h
    have hsix : ∀ t, ipv6Int t = some v6 → ∃ c, t.head? = some c ∧ isAddressChar c = true := by
      intro t ht
      obtain ⟨c, hc, hx⟩ := head_of_ipv6Int ht
      refine ⟨c, hc, ?_⟩
      rcases hx with rfl | hx
      · rfl
      · simp [isAddressChar, hx]
    unfold ipv6Address at hv6
    split_ifs at hv6 with hslash
    split at hv6
    · exact hsix text hv6
    · split_ifs at hv6 with hscope
      obtain ⟨c, hc, hx⟩ := hsix _ hv6
      refine ⟨c, ?_, hx⟩
      -- the part in front of the scope mark is not empty, so it starts as the text does
      unfold beforeScope at hc
      cases text with
      | nil => simp at hc
      | cons d ds =>
          rw [List.takeWhile_cons] at hc
          split_ifs at hc
          · exact hc
          · simp at hc

/-- **How an accepted `local_ip` starts**: with a hexadecimal digit, a colon or the letter `l`. -/
theorem LocalIp.head_text (ip : LocalIp) :
    ∃ c, ip.text.toList.head? = some c ∧ isAddressChar c = true := by
  obtain ⟨value, -, h⟩ := ip.accepted
  unfold validateLocalIp at h
  simp only at h
  split_ifs at h with hlocal
  · rw [← Option.some.inj h, hlocal]
    exact ⟨'l', rfl, rfl⟩
  · split at h
    · rename_i parsed hparsed
      split_ifs at h
      rw [← Option.some.inj h, String.toList_ofList]
      exact head_of_ipAddress hparsed
    · simp at h

/-- An accepted `local_ip` fits its column. -/
theorem LocalIp.length_le (ip : LocalIp) : ip.text.length ≤ 64 := by
  obtain ⟨value, hlen, h⟩ := ip.accepted
  have hstrip : (strip value.toList).length ≤ value.length := by
    unfold strip
    rw [← String.length_toList]
    exact (List.rdropWhile_prefix _ _).length_le.trans (List.dropWhile_suffix _).length_le
  have htext : ip.text = String.ofList (strip value.toList) := by
    unfold validateLocalIp at h
    simp only at h
    split_ifs at h
    · exact (Option.some.inj h).symm
    · split at h
      · split_ifs at h
        exact (Option.some.inj h).symm
      · simp at h
  rw [htext, String.length_ofList]
  exact hstrip.trans hlen

end SmsForwarder
