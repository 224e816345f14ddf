/-
**Settings, exceptions and the environment of the server.**

The settings a run is configured with, the exceptions a service call can end with, and the pieces
of the environment that are not code of the server: the cipher of the `cryptography` package, the
SHA-256 digest, the parameter binding of the database driver, and which constraints the deployed
schema has.

Main definitions:

* `SmsForwarder.Settings` — the configuration fields the services read, with their defaults;
* `SmsForwarder.AppError`, `SmsForwarder.PyError` — the errors the API answers with, and every
  exception a service call can raise;
* `SmsForwarder.Schema`, `SmsForwarder.ormSchema`, `SmsForwarder.migrationSchema` — the
  constraints on which the ORM models and the migrations differ, or the backends do;
* `SmsForwarder.Env` — everything a call depends on besides the store.
-/

import SmsForwarder.PyText

set_option relaxedAutoImplicit false
set_option autoImplicit false

namespace SmsForwarder

/-! ### Settings -/

/-- The port frps accepts clients on. -/
def FRPS_BIND_PORT : ℤ := 7000

/-- The configuration fields that the modelled services read. -/
structure Settings where
  publicBaseUrl : String := "http://localhost:8000"
  frpsInternalHost : String := "127.0.0.1"
  frpsPublicHost : String := "localhost"
  frpsAuthToken : String := "change-me-frps-token"
  frpsAllowPortMin : ℤ := 17000
  frpsAllowPortMax : ℤ := 17999
  webhookRateLimitPerMinute : ℤ := 120

/-! ### Exceptions -/

/-- The codes an error answer carries. -/
inductive ErrorCode
  | unauthorized
  | forbidden
  | notFound
  | conflict
  | rateLimited
  | deviceUnreachable
  | deviceTimeout
  deriving DecidableEq, Repr

/-- The number of an error code. -/
def ErrorCode.toNat : ErrorCode → ℕ
  | .unauthorized => 401
  | .forbidden => 403
  | .notFound => 404
  | .conflict => 409
  | .rateLimited => 429
  | .deviceUnreachable => 502
  | .deviceTimeout => 504

/-- The application errors, which the API turns into an answer with their code, message and
details. -/
structure AppError where
  code : ErrorCode
  message : String
  details : List (String × ℤ) := []
  deriving DecidableEq, Repr

def UnauthorizedError (message : String) : AppError := { code := .unauthorized, message }

def ForbiddenError (message : String) : AppError := { code := .forbidden, message }

def NotFoundError (message : String) : AppError := { code := .notFound, message }

def ConflictError (message : String) : AppError := { code := .conflict, message }

def RateLimitError (retryAfter : ℤ) : AppError where
  code := .rateLimited
  message := "rate limited"
  details := [("retry_after", retryAfter)]

def DeviceChannelError (message : String) : AppError := { code := .deviceUnreachable, message }

def DeviceTimeoutError : AppError := { code := .deviceTimeout, message := "device timeout" }

/-- Every exception a service call can end with.  Only `app` is answered with its own code; the
others reach the handler for unexpected exceptions. -/
inductive PyError
  | app (e : AppError)
  /-- a unique, not-null or foreign-key constraint is violated -/
  | integrityError
  /-- a value does not fit its column -/
  | dataError
  /-- a statement fails for a reason outside the data, such as a lost connection -/
  | operationalError
  /-- the driver cannot bind a parameter of this type -/
  | statementError
  /-- `one_or_none` or `one` met several rows -/
  | multipleResultsFound
  /-- `one` met no row -/
  | noResultFound
  /-- a ciphertext does not decrypt -/
  | invalidToken
  | unicodeEncodeError
  | attributeError
  | valueError
  | typeError
  | overflowError
  /-- the calls nest deeper than the interpreter allows -/
  | recursionError
  deriving DecidableEq, Repr

/-- The answer of a call that was refused with a `ConflictError`. -/
def conflict {α : Type*} (message : String) : Except PyError α :=
  .error (.app (ConflictError message))

/-- The answer of a call that was refused with a `NotFoundError`. -/
def notFound {α : Type*} (message : String) : Except PyError α :=
  .error (.app (NotFoundError message))

/-- A computation that fails or goes on succeeds exactly when both its parts do. -/
theorem bind_eq_ok {ε α β : Type} {x : Except ε α} {f : α → Except ε β} {b : β} :
    (x >>= f) = .ok b ↔ ∃ a, x = .ok a ∧ f a = .ok b := by
  cases x <;> simp [bind, Except.bind]

theorem bind_eq_error {ε α β : Type} {x : Except ε α} {f : α → Except ε β} {e : ε} :
    (x >>= f) = .error e ↔ x = .error e ∨ ∃ a, x = .ok a ∧ f a = .error e := by
  cases x <;> simp [bind, Except.bind]

/-- What comes after a computation matters only for what it can return. -/
theorem bind_congr_right {ε α β : Type} {x : Except ε α} {f g : α → Except ε β}
    (h : ∀ a, x = .ok a → f a = g a) : (x >>= f) = (x >>= g) := by
  cases x with
  | error e => rfl
  | ok a => exact h a rfl

/-- Two computations whose first parts correspond by `f` correspond by `h` if the rest does. -/
theorem bind_congr_map {ε α α' β β' : Type} {x : Except ε α} {x' : Except ε α'} {f : α → α'}
    {g : α → Except ε β} {g' : α' → Except ε β'} {h : β → β'} (hx : x' = x.map f)
    (hg : ∀ a, x = .ok a → g' (f a) = (g a).map h) : (x' >>= g') = (x >>= g).map h := by
  subst hx
  cases x with
  | error e => rfl
  | ok a => exact hg a rfl

/-- Two computations with the same first part correspond by `h` if the rest does. -/
theorem bind_congr_map_right {ε α β β' : Type} {x : Except ε α} {g : α → Except ε β}
    {g' : α → Except ε β'} {h : β → β'} (hg : ∀ a, x = .ok a → g' a = (g a).map h) :
    (x >>= g') = (x >>= g).map h := by
  cases x with
  | error e => rfl
  | ok a => exact hg a rfl

theorem map_eq_ok {ε α β : Type} {x : Except ε α} {f : α → β} {b : β} :
    x.map f = .ok b ↔ ∃ a, x = .ok a ∧ f a = b := by
  cases x <;> simp [Except.map]

theorem map_eq_error {ε α β : Type} {x : Except ε α} {f : α → β} {e : ε} :
    x.map f = .error e ↔ x = .error e := by
  cases x <;> simp [Except.map]

/-- The computation ends in none of the errors that the API answers with their own code. -/
def NoAppError {α : Type} (x : Except PyError α) : Prop := ∀ e, x ≠ .error (.app e)

theorem NoAppError.ok {α : Type} (a : α) : NoAppError (.ok a) := fun _ => by simp

theorem NoAppError.bind {α β : Type} {x : Except PyError α} {f : α → Except PyError β}
    (hx : NoAppError x) (hf : ∀ a, NoAppError (f a)) : NoAppError (x >>= f) := by
  cases x with
  | error e => exact fun e' h => hx e' (congrArg Except.error (Except.error.inj h))
  | ok a => exact hf a

@[simp] theorem conflict_ne_ok {α : Type*} {message : String} {a : α} :
    conflict message ≠ .ok a := by simp [conflict]

@[simp] theorem notFound_ne_ok {α : Type*} {message : String} {a : α} :
    notFound message ≠ .ok a := by simp [notFound]

/-! ### The environment -/

/-- The constraints that depend on where the tables came from: the unique index on
`device_tunnels.device_id` is declared by the ORM model and missing from the migration, and the
lengths of string columns are enforced by PostgreSQL and ignored by SQLite. -/
structure Schema where
  uniqueTunnelDevice : Bool
  enforceLengths : Bool

/-- The tables as `Base.metadata.create_all` makes them. -/
def ormSchema : Schema := { uniqueTunnelDevice := true, enforceLengths := false }

/-- The tables as the migrations `0001_init` and `0002_device_tunnels` make them. -/
def migrationSchema : Schema := { uniqueTunnelDevice := false, enforceLengths := false }

/-- The cipher of `app.utils.crypto`: encryption draws a nonce, and what was encrypted decrypts. -/
structure Cipher where
  encrypt : ℕ → String → String
  decrypt : String → Option String
  decrypt_encrypt : ∀ nonce plaintext, decrypt (encrypt nonce plaintext) = some plaintext

/-- The parameter binding of the database driver: which JSON values a text column takes, as which
text, which values a JSON column takes, and which rows `OFFSET` and `LIMIT` select.  A value is bound
as a text or refused; a driver that binds some value as `NULL`, as that of SQLite does with NaN, is
not one of these. -/
structure Driver where
  bindText : Py.Json → Option String
  acceptsJson : Py.Json → Bool
  slice : {α : Type} → (offset limit : ℤ) → List α → Option (List α)
  /-- A text is bound as it is, if it can be encoded. -/
  bindText_str : ∀ s, bindText (.str s) = Py.encode s
  /-- Numbers that are not negative and have 64 bits with the sign are accepted, and so is an offset
  inside the table. -/
  slice_eq : ∀ {α : Type} (offset limit : ℕ) (rows : List α),
    offset < 2 ^ 63 ∨ offset ≤ rows.length → limit < 2 ^ 63 →
      slice offset limit rows = some ((rows.drop offset).take limit)
  /-- Whatever the numbers are, only rows of the query are selected. -/
  slice_sublist : ∀ {α : Type} {offset limit : ℤ} {rows items : List α},
    slice offset limit rows = some items → items.Sublist rows

/-- Everything a call depends on besides the store and its arguments. -/
structure Env where
  settings : Settings
  schema : Schema
  runtime : Py.Runtime
  cipher : Cipher
  driver : Driver
  /-- `hashlib.sha256(text.encode()).hexdigest()` -/
  sha256Hex : String → String

/-- `app.utils.crypto.decrypt`. -/
def decrypt (env : Env) (ciphertext : String) : Except PyError String :=
  match env.cipher.decrypt ciphertext with
  | some plaintext => .ok plaintext
  | none => .error .invalidToken

/-- A cipher that puts the nonce in front of the text, up to a separator. -/
def plainCipher : Cipher where
  encrypt nonce plaintext :=
    String.ofList (List.replicate nonce '#' ++ ':' :: plaintext.toList)
  decrypt ciphertext :=
    match ciphertext.toList.dropWhile (· = '#') with
    | ':' :: plaintext => some (String.ofList plaintext)
    | _ => none
  decrypt_encrypt nonce plaintext := by
    have h : ∀ n, (List.replicate n '#' ++ ':' :: plaintext.toList).dropWhile (· = '#') =
        ':' :: plaintext.toList := by
      intro n
      induction n with
      | zero => rfl
      | succ n ih => simp [List.replicate_succ, ih]
    simp [h]

/-- A driver that takes texts and integers, and numbers of 64 bits. -/
def plainDriver : Driver where
  bindText
    | .str s => Py.encode s
    | .num (.int z) => some (toString z)
    | _ => none
  acceptsJson _ := true
  slice offset limit rows :=
    if 0 ≤ offset ∧ 0 ≤ limit ∧ (offset < 2 ^ 63 ∨ offset ≤ rows.length) ∧ limit < 2 ^ 63 then
      some ((rows.drop offset.toNat).take limit.toNat)
    else none
  bindText_str _ := rfl
  slice_eq offset limit rows hoffset hlimit := by
    rw [if_pos (by omega)]
    simp
  slice_sublist h := by
    split at h
    · obtain rfl := Option.some.inj h
      exact (List.take_sublist _ _).trans (List.drop_sublist _ _)
    · simp at h

/-- An environment with the default settings, for runs on concrete inputs. -/
def plainEnv (schema : Schema) : Env where
  settings := {}
  schema := schema
  runtime := Py.asciiRuntime
  cipher := plainCipher
  driver := plainDriver
  sha256Hex := id

end SmsForwarder
