/-
**Signatures, keys and tokens as text.**

Bytes that a hash function gives or that are drawn at random leave the server as text: a signature
in percent-encoded base64, the key of the cipher in base64 for URLs, the token of a webhook in the
same without its padding.  Nothing of them is lost on the way.  The device that a query is posted to
reads the signature back and compares; the first characters of a token, which are all that the
limiter looks at, show thirty of its random bits.

Main definitions:

* `SmsForwarder.Hashes`, `SmsForwarder.utf8` — the hash functions, and texts as bytes;
* `SmsForwarder.quotedSign`, `SmsForwarder.readSign` — a signature as text, and back;
* `SmsForwarder.deviceAccepts` — the check of the device;
* `SmsForwarder.deriveKey`, `SmsForwarder.fernetKey` — the key of the cipher;
* `SmsForwarder.tokenUrlsafe` — the random part of a token.

Main results:

* `SmsForwarder.fernetKey_deriveKey` — the cipher takes the key of every secret;
* `SmsForwarder.deviceAccepts_requestBody` — a device accepts what is posted exactly if its own
  secret signs with the same bytes;
* `SmsForwarder.sharedLimit_iff` — **two webhooks share a limit exactly if the first thirty random
  bits of their tokens agree.**
-/

import SmsForwarder.Base64
import SmsForwarder.DispatchEffects
import SmsForwarder.IngestEndpoint
import SmsForwarder.PercentEncoding

set_option relaxedAutoImplicit false
set_option autoImplicit false

namespace SmsForwarder

open Py Tables Runs Base64 PercentEncoding

/-! ### Bytes -/

/-- Thirty-two bytes. -/
abbrev Digest := { bytes : List Byte // bytes.length = 32 }

/-- `hashlib.sha256(...).digest()` and `hmac.new(key, message, hashlib.sha256).digest()`. -/
structure Hashes where
  sha256 : List Byte → Digest
  hmacSha256 : (key message : List Byte) → Digest

/-- A byte. -/
def byteOf8 (b : UInt8) : Byte := ⟨b.toNat, b.toNat_lt⟩

/-- `text.encode()`. -/
def utf8 (text : String) : List Byte :=
  text.toList.flatMap fun c => (String.utf8EncodeChar c).map byteOf8

/-- `bytes.decode()`, for bytes that are codes of ASCII characters. -/
def decodeAscii (bytes : List Byte) : List Char := bytes.map fun b => Char.ofNat b.val

/-- The characters of the text are all in ASCII. -/
def Ascii (text : List Char) : Prop := ∀ c ∈ text, c.toNat < 128

theorem utf8EncodeChar_of_lt {c : Char} (h : c.toNat < 128) :
    (String.utf8EncodeChar c).map byteOf8 = [⟨c.toNat, by omega⟩] := by
  have hsize : c.utf8Size = 1 := by
    rw [Char.utf8Size_eq_one_iff]
    exact UInt32.le_iff_toNat_le.2 (Nat.le_of_lt_succ h)
  rw [String.utf8EncodeChar_eq_singleton hsize, List.map_singleton, List.singleton_inj]
  refine Fin.ext ?_
  show c.val.toNat % 256 = c.toNat
  exact Nat.mod_eq_of_lt (lt_trans h (by decide))

theorem utf8_ofList_cons (c : Char) (text : List Char) :
    utf8 (String.ofList (c :: text)) =
      (String.utf8EncodeChar c).map byteOf8 ++ utf8 (String.ofList text) := by
  simp [utf8]

/-- The bytes of an ASCII text are read back. -/
theorem decodeAscii_utf8 {text : List Char} (h : Ascii text) :
    decodeAscii (utf8 (String.ofList text)) = text := by
  induction text with
  | nil => rfl
  | cons c text ih =>
      obtain ⟨hc, htext⟩ := List.forall_mem_cons.1 h
      rw [utf8_ofList_cons, utf8EncodeChar_of_lt hc]
      show Char.ofNat c.toNat :: decodeAscii (utf8 (String.ofList text)) = c :: text
      rw [Char.ofNat_toNat, ih htext]

/-! ### Base64 of the server -/

theorem ascii_standard (bytes : List Byte) : Ascii (Base64.encode standard bytes) := by
  -- a Boolean over the list, since `decide` would go through all characters there are
  have hchars : standard.chars.all (fun c => c.toNat < 128) = true := by decide
  intro c hc
  rcases mem_encode standard hc with hmem | rfl
  · exact of_decide_eq_true (List.all_eq_true.mp hchars c hmem)
  · decide

/-! ### Signatures -/

/-- `quote(base64.b64encode(digest).decode(), safe="")`. -/
def quotedSign (digest : Digest) : String :=
  String.ofList (quote (utf8 (String.ofList (Base64.encode standard digest.val))))

/-- The bytes of a signature, read back. -/
def readSign (text : String) : Option (List Byte) := do
  let bytes ← unquote text.toList
  Base64.decode standard (decodeAscii bytes)

/-- **A signature is read back.** -/
theorem readSign_quotedSign (digest : Digest) :
    readSign (quotedSign digest) = some digest.val := by
  unfold readSign quotedSign
  rw [String.toList_ofList, unquote_quote]
  show Base64.decode standard (decodeAscii _) = _
  rw [decodeAscii_utf8 (ascii_standard _), decode_encode]

namespace Hashes

variable (h : Hashes)

/-- The signature of a message under a key, as text. -/
def hmacText (key message : String) : String := quotedSign (h.hmacSha256 (utf8 key) (utf8 message))

/-- The bytes that a secret signs a time with. -/
def signature (timestamp secret : String) : Digest :=
  h.hmacSha256 (utf8 secret) (utf8 (timestamp ++ "\n" ++ secret))

end Hashes

/-- The check of a device with a secret: the signature is that of the secret and the time in the
message. -/
def deviceAccepts (h : Hashes) (secret : String) (body : Json) : Bool :=
  match body with
  | .obj fields =>
      match Json.get fields (py "timestamp"), Json.get fields (py "sign") with
      | .str timestamp, .str sign =>
          match Py.encode timestamp, Py.encode sign with
          | some timestamp, some sign => readSign sign = some (h.signature timestamp secret).val
          | _, _ => false
      | _, _ => false
  | _ => false

/-- The message has no signature. -/
def unsigned (body : Json) : Bool :=
  match body with
  | .obj fields => fields.all fun field => field.1 ≠ py "sign"
  | _ => false

section

variable {h : Hashes} {d : DispatchCall} {payload : List (Str × Json)} {secret : String}

/-- **A device accepts a message exactly if its own signature is that of the sender.** -/
theorem deviceAccepts_requestBody (hhmac : d.hmac = h.hmacText) (hne : secret ≠ "")
    (own : String) :
    deviceAccepts h own (SmsForwarderHttpAdapter.requestBody d payload (some secret)) = true ↔
      h.signature d.timestamp own = h.signature d.timestamp secret := by
  have hbody : SmsForwarderHttpAdapter.requestBody d payload (some secret) =
      .obj [(py "data", .obj payload), (py "timestamp", .str (py d.timestamp)),
        (py "sign", .str (py (quotedSign (h.signature d.timestamp secret))))] := by
    unfold SmsForwarderHttpAdapter.requestBody SmsForwarderHttpAdapter.buildSign
    rw [hhmac]
    split
    · rename_i heq
      simp at heq
    · rename_i heq
      exact absurd (Option.some.inj heq) hne
    · rename_i heq
      rw [← Option.some.inj heq]
      rfl
  have hsign : ∀ fields, Json.get fields (py "timestamp") = .str (py d.timestamp) →
      Json.get fields (py "sign") =
        .str (py (quotedSign (h.signature d.timestamp secret))) →
      (deviceAccepts h own (.obj fields) = true ↔
        h.signature d.timestamp own = h.signature d.timestamp secret) := by
    intro fields htimestamp hfield
    simp only [deviceAccepts, htimestamp, hfield, encode_py, readSign_quotedSign,
      decide_eq_true_eq, Option.some.injEq]
    rw [eq_comm, Subtype.ext_iff]
  rw [hbody]
  exact hsign _ (by simp [Json.get]) (by simp [Json.get])

theorem unsigned_requestBody :
    unsigned (SmsForwarderHttpAdapter.requestBody d payload none) = true := by
  simp [unsigned, SmsForwarderHttpAdapter.requestBody]

end

/-! ### The key of the cipher -/

/-- `_derive_key`. -/
def deriveKey (h : Hashes) (raw : String) : List Char :=
  Base64.encode urlSafe (h.sha256 (utf8 raw)).val

/-- The key that `Fernet` reads from a text, which has to be one of thirty-two bytes. -/
def fernetKey (key : List Char) : Except PyError (List Byte) :=
  match Base64.decode urlSafe key with
  | some bytes => if bytes.length = 32 then .ok bytes else .error .valueError
  | none => .error .valueError

/-- The cipher takes the key of every secret, and it is the hash of the secret. -/
theorem fernetKey_deriveKey (h : Hashes) (raw : String) :
    fernetKey (deriveKey h raw) = .ok (h.sha256 (utf8 raw)).val := by
  unfold fernetKey deriveKey
  rw [decode_encode]
  exact if_pos (h.sha256 (utf8 raw)).property

/-! ### Tokens -/

/-- `secrets.token_urlsafe(32)`, from the bytes it draws. -/
def tokenUrlsafe (drawn : Digest) : String := String.ofList (unpadded urlSafe drawn.val)

/-- The first thirty bits of the bytes. -/
def thirtyBits (drawn : Digest) : List Byte × Sextet :=
  (drawn.val.take 3, sextet1 (drawn.val.getD 3 (byteOf8 0)))

section

variable (drawn drawn' : Digest)

theorem toList_newToken :
    (WebhookService.newToken (tokenUrlsafe drawn)).toList =
      'w' :: 'h' :: '_' :: unpadded urlSafe drawn.val := by
  unfold WebhookService.newToken tokenUrlsafe
  rw [String.toList_append]
  exact congrArg ('w' :: 'h' :: '_' :: ·) String.toList_ofList

/-- Tokens from different bytes are different. -/
theorem newToken_inj :
    WebhookService.newToken (tokenUrlsafe drawn) = WebhookService.newToken (tokenUrlsafe drawn') ↔
      drawn = drawn' := by
  constructor
  · intro h
    rw [← String.toList_inj, toList_newToken, toList_newToken] at h
    simp only [List.cons.injEq, true_and] at h
    exact Subtype.ext (unpadded_injective urlSafe (drawn.property.trans drawn'.property.symm) h)
  · rintro rfl
    rfl

/-- The first characters of the random part. -/
theorem take_five_unpadded :
    (unpadded urlSafe drawn.val).take 5 = (Base64.encode urlSafe drawn.val).take 5 := by
  have hlen : 5 ≤ (unpadded urlSafe drawn.val).length := by
    rw [length_unpadded, drawn.property]
    decide
  rw [(encode_eq_unpadded_append urlSafe drawn.val).1, List.take_append_of_le_length hlen]

/-- **Two webhooks share a limit exactly if the first thirty random bits of their tokens agree.** -/
theorem sharedLimit_iff :
    resourceKey (WebhookService.newToken (tokenUrlsafe drawn)) =
        resourceKey (WebhookService.newToken (tokenUrlsafe drawn')) ↔
      thirtyBits drawn = thirtyBits drawn' := by
  have hkey : ∀ drawn : Digest, (WebhookService.newToken (tokenUrlsafe drawn)).toList.take 8 =
      'w' :: 'h' :: '_' :: (Base64.encode urlSafe drawn.val).take 5 := by
    intro drawn
    rw [toList_newToken, ← take_five_unpadded]
    rfl
  have hbits :
      (Base64.encode urlSafe drawn.val).take 5 = (Base64.encode urlSafe drawn'.val).take 5 ↔
      thirtyBits drawn = thirtyBits drawn' := by
    obtain ⟨bytes, hlen⟩ := drawn
    obtain ⟨bytes', hlen'⟩ := drawn'
    match bytes, bytes', hlen, hlen' with
    | a :: b :: c :: x :: rest, a' :: b' :: c' :: x' :: rest', _, _ =>
        rw [take_five_encode]
        simp [thirtyBits, and_assoc]
  rw [resourceKey_eq_iff, hkey, hkey]
  simp only [List.cons.injEq, true_and]
  exact hbits

end

/-- **Webhooks with different tokens do not matter to each other exactly if the first thirty random
bits of the tokens differ**: postings with the one token cannot make the limiter refuse postings
with the other. -/
theorem drawnTokens_perToken_iff (env : Env) (drawn drawn' : Digest) (hne : drawn ≠ drawn') :
    PerToken env (WebhookService.newToken (tokenUrlsafe drawn))
        (WebhookService.newToken (tokenUrlsafe drawn')) ↔
      thirtyBits drawn ≠ thirtyBits drawn' := by
  have htoken : WebhookService.newToken (tokenUrlsafe drawn) ≠
      WebhookService.newToken (tokenUrlsafe drawn') :=
    fun heq => hne ((newToken_inj drawn drawn').1 heq)
  rw [ne_eq, ← sharedLimit_iff]
  constructor
  · exact fun hper hkey => not_perToken_of_eq htoken hkey.symm hper
  · exact fun hkey => perToken_of_ne htoken fun heq => hkey heq.symm

/-- Bytes that are all the same. -/
def constantBytes (b : Byte) : Digest := ⟨List.replicate 32 b, List.length_replicate⟩

theorem drawnTokens_perToken_constant :
    PerToken (plainEnv ormSchema) (WebhookService.newToken (tokenUrlsafe (constantBytes 0)))
        (WebhookService.newToken (tokenUrlsafe (constantBytes 1))) ↔
      thirtyBits (constantBytes 0) ≠ thirtyBits (constantBytes 1) :=
  drawnTokens_perToken_iff (plainEnv ormSchema) (constantBytes 0) (constantBytes 1) (by decide)

end SmsForwarder
