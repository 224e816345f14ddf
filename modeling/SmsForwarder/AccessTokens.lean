/-
**Access tokens.**

A user who logs in gets a signed token that names the user and the second it expires in.  Nothing
is stored about it: every later request presents the token, and the server decodes it, looks the
user up by the identifier it names and asks whether the user is active.  So a token is as good as
its signature and its time, and what the tables say of its user at the moment it is presented.

The signature comes from outside: what is used of it is that a token decodes, under the secret it
was encoded with, to the payload that was encoded, up to the second it expires in and not after.

Main definitions:

* `SmsForwarder.Jwt`, `SmsForwarder.AuthEnv` — the tokens of `jose.jwt`, and all that
  authentication depends on besides the tables;
* `SmsForwarder.createAccessToken`, `SmsForwarder.decodeUserId`, `SmsForwarder.getUserByToken`,
  `SmsForwarder.getCurrentUser` — the functions of the service, and the dependency of the routes;
* `SmsForwarder.login` — the call that issues a token;
* `SmsForwarder.plainJwt` — tokens that can be read, for runs on concrete inputs.

Main results:

* `SmsForwarder.getCurrentUser_eq_ok` — everything that was checked about the user of a request;
* `SmsForwarder.getCurrentUser_issued` — **a token stands for its user up to the second it expires
  in**, as long as the user is active.
-/

import Mathlib
import SmsForwarder.CreateAdmin
import SmsForwarder.RateLimiter

set_option relaxedAutoImplicit false
set_option autoImplicit false

namespace SmsForwarder

open Py Tables

/-! ### Tokens -/

/-- The settings of the access tokens. -/
structure TokenSettings where
  jwtSecret : String := "change-me-jwt-secret"
  accessTokenExpireMinutes : ℤ := 60

/-- The payload of a token: `jwt.encode` writes the time it expires as a whole second. -/
def tokenPayload (sub username : String) (exp : ℤ) : List (Str × Json) :=
  [(py "sub", .str (py sub)), (py "username", .str (py username)), (py "exp", .num (.int exp))]

/-- The module `jose.jwt` with the configured algorithm.  `decode` reads the clock, in seconds, and
ends in a `JWTError` on a token that the secret did not sign or that has expired. -/
structure Jwt where
  encode : (payload : List (Str × Json)) → (secret : String) → String
  decode : (token secret : String) → (now : ℤ) → Option (List (Str × Json))
  decode_encode : ∀ sub username exp secret now,
    decode (encode (tokenPayload sub username exp) secret) secret now =
      if now ≤ exp then some (tokenPayload sub username exp) else none

/-- Everything authentication depends on besides the tables. -/
structure AuthEnv where
  env : Env
  tokens : TokenSettings
  bcrypt : Bcrypt
  jwt : Jwt
  /-- `str.isdigit` -/
  isdigit : Str → Bool
  isdigit_intStr : ∀ n : ℕ, isdigit (intStr n) = true
  /-- `int` reads the numbers of 64 bits that `str` writes. -/
  parseInt_intStr : ∀ n : ℕ, n < 2 ^ 63 → env.runtime.parseInt (intStr n) = some (n : ℤ)

/-- The second a time is in. -/
def wholeSecond (t : Timestamp) : ℤ := t / seconds 1

variable (e : AuthEnv)

/-- The second a token expires in. -/
def expiry (issuedAt : Timestamp) : ℤ :=
  wholeSecond (issuedAt + seconds (60 * e.tokens.accessTokenExpireMinutes))

/-- `create_access_token`. -/
def createAccessToken (user : User) (now : Timestamp) : String :=
  e.jwt.encode (tokenPayload (toString user.id) user.username (expiry e now)) e.tokens.jwtSecret

/-- `int(subject)`, of a subject that consists of digits. -/
def subjectId (subject : Str) : Except PyError ℤ :=
  if e.isdigit subject then
    match e.env.runtime.parseInt subject with
    | some userId => .ok userId
    | none => .error .valueError
  else .error (.app (UnauthorizedError "invalid token subject"))

/-- `decode_user_id`. -/
def decodeUserId (token : String) (now : Timestamp) : Except PyError ℤ :=
  match e.jwt.decode token e.tokens.jwtSecret (wholeSecond now) with
  | none => .error (.app (UnauthorizedError "invalid token"))
  | some payload =>
      match Json.get payload (py "sub") with
      | .str subject => subjectId e subject
      | _ => .error (.app (UnauthorizedError "invalid token subject"))

/-- The user with this identifier, if there is one and it is active. -/
def activeUser (a : Accounts) (userId : ℤ) : Except PyError User :=
  match oneOrNone (fun u => (u.id : ℤ) = userId) a.users with
  | none => .error .multipleResultsFound
  | some none => .error (.app (UnauthorizedError "user not found"))
  | some (some user) =>
      if user.isActive then .ok user else .error (.app (UnauthorizedError "user not found"))

/-- `AuthService.get_user_by_token`. -/
def getUserByToken (a : Accounts) (token : String) (now : Timestamp) : Except PyError User := do
  let userId ← decodeUserId e token now
  activeUser a userId

/-- `HTTPAuthorizationCredentials`: the two parts of the `Authorization` header. -/
structure Credentials where
  scheme : Str
  credentials : String

/-- `get_current_user`. -/
def getCurrentUser (a : Accounts) (credentials : Option Credentials) (now : Timestamp) :
    Except PyError User :=
  match credentials with
  | none => .error (.app (UnauthorizedError "missing bearer token"))
  | some c =>
      if e.env.runtime.lower c.scheme = py "bearer" then getUserByToken e a c.credentials now
      else .error (.app (UnauthorizedError "missing bearer token"))

/-! ### Logging in -/

structure LoginRequest where
  username : String
  password : Str
  username_length : 1 ≤ username.length ∧ username.length ≤ 128
  password_length : 1 ≤ password.length ∧ password.length ≤ 255

/-- The route `login`, up to its response. -/
def login (a : Accounts) (payload : LoginRequest) (now : Timestamp) : Except PyError String := do
  let user ← authenticate e.bcrypt a payload.username payload.password
  pure (createAccessToken e user now)

/-! ### What the checks say -/

section

variable {e} {a : Accounts} {user : User} {now issuedAt : Timestamp} {token : String}

/-- With primary keys unique, the lookup finds the active user of an identifier. -/
theorem activeUser_eq_ok (hu : UniqueKey User.id a.users) {userId : ℤ} :
    activeUser a userId = .ok user ↔
      user ∈ a.users ∧ (user.id : ℤ) = userId ∧ user.isActive = true := by
  unfold activeUser
  constructor
  · intro h
    split at h
    · simp at h
    · simp at h
    · rename_i found hfound
      split at h
      · rename_i hactive
        obtain rfl := Except.ok.inj h
        obtain ⟨hmem, hid⟩ := mem_of_oneOrNone hfound
        exact ⟨hmem, by simpa using hid, hactive⟩
      · simp at h
  · rintro ⟨hmem, rfl, hactive⟩
    have hone : oneOrNone (fun u : User => decide ((u.id : ℤ) = (user.id : ℤ))) a.users =
        some (some user) := by
      simp only [Nat.cast_inj]
      exact oneOrNone_of_mem hu hmem
    rw [hone]
    simp only [hactive, if_true]

/-- The lookup refuses with an `UnauthorizedError`. -/
theorem activeUser_eq_error (hu : UniqueKey User.id a.users) {userId : ℤ} {err : PyError}
    (h : activeUser a userId = .error err) :
    err = .app (UnauthorizedError "user not found") := by
  unfold activeUser at h
  split at h
  · rename_i hmany
    rw [oneOrNone_eq_none] at hmany
    -- two rows for an identifier contradict the primary key
    exfalso
    by_cases hex : ∃ u ∈ a.users, (u.id : ℤ) = userId
    · obtain ⟨u, hmem, rfl⟩ := hex
      have hone := filter_of_uniqueKey hu hmem
      simp only [Nat.cast_inj, hone, List.length_singleton] at hmany
      omega
    · have hnone : a.users.filter (fun u => decide ((u.id : ℤ) = userId)) = [] := by
        rw [List.filter_eq_nil_iff]
        intro u hmem hid
        exact hex ⟨u, hmem, by simpa using hid⟩
      simp [hnone] at hmany
  · exact (Except.error.inj h).symm
  · split at h
    · simp at h
    · exact (Except.error.inj h).symm

/-- What a token says of its user: it decodes to digits that denote an identifier. -/
def Names (e : AuthEnv) (token : String) (now : Timestamp) (userId : ℕ) : Prop :=
  decodeUserId e token now = .ok (userId : ℤ)

/-- **Everything that was checked about the user of a request**: a bearer token was presented that
decodes to the identifier of the user, who is active. -/
theorem getCurrentUser_eq_ok (hu : UniqueKey User.id a.users) {credentials : Option Credentials} :
    getCurrentUser e a credentials now = .ok user ↔
      user ∈ a.users ∧ user.isActive = true ∧ ∃ c, credentials = some c ∧
        e.env.runtime.lower c.scheme = py "bearer" ∧ Names e c.credentials now user.id := by
  unfold getCurrentUser
  cases credentials with
  | none => simp
  | some c =>
      by_cases hscheme : e.env.runtime.lower c.scheme = py "bearer"
      · simp only [hscheme, if_true, Option.some.injEq]
        unfold getUserByToken Names
        rw [bind_eq_ok]
        constructor
        · rintro ⟨userId, hdecode, hlookup⟩
          obtain ⟨hmem, rfl, hactive⟩ := (activeUser_eq_ok hu).1 hlookup
          exact ⟨hmem, hactive, c, rfl, hscheme, hdecode⟩
        · rintro ⟨hmem, hactive, c', rfl, -, hdecode⟩
          exact ⟨_, hdecode, (activeUser_eq_ok hu).2 ⟨hmem, rfl, hactive⟩⟩
      · simp only [hscheme, if_false, reduceCtorEq, Option.some.injEq, false_iff]
        rintro ⟨-, -, c', rfl, hscheme', -⟩
        exact hscheme hscheme'

/-- The token of a user names the user, up to the second it expires in. -/
theorem decodeUserId_createAccessToken (hid : user.id < 2 ^ 63) :
    decodeUserId e (createAccessToken e user issuedAt) now =
      if wholeSecond now ≤ expiry e issuedAt then .ok (user.id : ℤ)
      else .error (.app (UnauthorizedError "invalid token")) := by
  unfold decodeUserId createAccessToken
  rw [e.jwt.decode_encode]
  by_cases hlive : wholeSecond now ≤ expiry e issuedAt
  · have hsub : Json.get (tokenPayload (toString user.id) user.username (expiry e issuedAt))
        (py "sub") = .str (intStr user.id) := rfl
    simp only [hlive, if_true, hsub]
    unfold subjectId
    rw [e.isdigit_intStr, e.parseInt_intStr _ hid]
    rfl
  · simp only [hlive, if_false]

/-- **A token stands for its user up to the second it expires in**: whoever presents it is the user
of that identifier, as the tables have the user then, if the user is active. -/
theorem getCurrentUser_issued (hu : UniqueKey User.id a.users) (hid : user.id < 2 ^ 63)
    {scheme : Str} (hscheme : e.env.runtime.lower scheme = py "bearer") {user' : User} :
    getCurrentUser e a (some ⟨scheme, createAccessToken e user issuedAt⟩) now = .ok user' ↔
      wholeSecond now ≤ expiry e issuedAt ∧ user' ∈ a.users ∧ user'.id = user.id ∧
        user'.isActive = true := by
  rw [getCurrentUser_eq_ok hu]
  unfold Names
  simp only [Option.some.injEq, exists_eq_left', hscheme, true_and,
    decodeUserId_createAccessToken hid]
  by_cases hlive : wholeSecond now ≤ expiry e issuedAt
  · simp only [hlive, if_true, Except.ok.injEq, Nat.cast_inj, true_and]
    constructor
    · rintro ⟨hmem, hactive, heq⟩
      exact ⟨hmem, heq.symm, hactive⟩
    · rintro ⟨hmem, heq, hactive⟩
      exact ⟨hmem, hactive, heq.symm⟩
  · simp [hlive]

/-- Who logs in is an active user of that name whose hash accepts the password. -/
theorem authenticate_eq_ok {b : Bcrypt} {username : String} {password : Str}
    (hu : UniqueKey User.username a.users) :
    authenticate b a username password = .ok user ↔
      user ∈ a.users ∧ user.username = username ∧ user.isActive = true ∧
        verifyPassword b password user.passwordHash = .ok true := by
  unfold authenticate
  constructor
  · intro h
    split at h
    · simp at h
    · simp at h
    · rename_i found hfound
      obtain ⟨hmem, hname⟩ := mem_of_oneOrNone hfound
      obtain ⟨verified, hverify, h⟩ := bind_eq_ok.1 h
      split at h
      · simp at h
      · rename_i hverified
        split at h
        · simp at h
        · rename_i hactive
          obtain rfl := Except.ok.inj h
          rw [Bool.not_eq_false] at hverified hactive
          exact ⟨hmem, by simpa using hname, hactive, by rw [hverify, hverified]⟩
  · rintro ⟨hmem, rfl, hactive, hverify⟩
    rw [oneOrNone_of_mem hu hmem]
    simp [hverify, hactive, bind, Except.bind]

end

/-! ### Tokens that can be read -/

/-- A text with its length in front. -/
def framed (cs : List Char) : List Char := List.replicate cs.length '#' ++ ':' :: cs

/-- The first text of a sequence of framed ones, and the rest. -/
def unframe (cs : List Char) : List Char × List Char :=
  let n := (cs.takeWhile (· = '#')).length
  let rest := (cs.dropWhile (· = '#')).tail
  (rest.take n, rest.drop n)

theorem unframe_framed (cs rest : List Char) : unframe (framed cs ++ rest) = (cs, rest) := by
  have htake : ∀ n : ℕ, ∀ l : List Char,
      (List.replicate n '#' ++ ':' :: l).takeWhile (· = '#') = List.replicate n '#' := by
    intro n l
    induction n with
    | zero => rfl
    | succ n ih => simp [List.replicate_succ, ih]
  have hdrop : ∀ n : ℕ, ∀ l : List Char,
      (List.replicate n '#' ++ ':' :: l).dropWhile (· = '#') = ':' :: l := by
    intro n l
    induction n with
    | zero => rfl
    | succ n ih => simp [List.replicate_succ, ih]
  unfold unframe framed
  rw [List.append_assoc, List.cons_append, htake, hdrop]
  simp

/-- A text among the values of a payload. -/
def textOf (payload : List (Str × Json)) (key : String) : List Char :=
  match Json.get payload (py key) with
  | .str s => ((encode s).getD "").toList
  | .num (.int z) => z.repr.toList
  | _ => []

/-- Tokens that show the secret and the payload. -/
def plainJwt : Jwt where
  encode payload secret :=
    String.ofList (framed secret.toList ++ framed (textOf payload "sub") ++
      framed (textOf payload "username") ++ framed (textOf payload "exp"))
  decode token secret now :=
    let signed := unframe token.toList
    let sub := unframe signed.2
    let username := unframe sub.2
    let exp := unframe username.2
    match (String.ofList exp.1).toInt? with
    | none => none
    | some expires =>
        if String.ofList signed.1 = secret ∧ now ≤ expires then
          some (tokenPayload (String.ofList sub.1) (String.ofList username.1) expires)
        else none
  decode_encode sub username exp secret now := by
    have hsub : textOf (tokenPayload sub username exp) "sub" = sub.toList := by
      show ((encode (py sub)).getD "").toList = sub.toList
      rw [encode_py]
      rfl
    have husername : textOf (tokenPayload sub username exp) "username" = username.toList := by
      show ((encode (py username)).getD "").toList = username.toList
      rw [encode_py]
      rfl
    have hexp : textOf (tokenPayload sub username exp) "exp" = exp.repr.toList := rfl
    have hlast : unframe (framed exp.repr.toList) = (exp.repr.toList, []) := by
      simpa using unframe_framed exp.repr.toList []
    simp only [hsub, husername, hexp, String.toList_ofList, List.append_assoc, unframe_framed,
      hlast, String.ofList_toList, Int.toInt?_repr, true_and]

/-- An environment for runs on concrete inputs. -/
def plainAuthEnv (schema : Schema) : AuthEnv where
  env := plainEnv schema
  tokens := {}
  bcrypt := plainBcrypt
  jwt := plainJwt
  isdigit s := (encode s).any fun text => text ≠ "" && text.toList.all Char.isDigit
  isdigit_intStr n := by
    have hne : n.repr ≠ "" := Nat.repr_ne_empty
    have hdigits : n.repr.toList.all Char.isDigit = true := by
      rw [List.all_eq_true]
      intro c hc
      rw [Nat.toList_repr] at hc
      exact Nat.isDigit_of_mem_toDigits (by decide) (by decide) hc
    unfold intStr
    rw [encode_py]
    show (decide (n.repr ≠ "") && n.repr.toList.all Char.isDigit) = true
    rw [hdigits]
    simp [hne]
  parseInt_intStr n _ := by
    show (encode (py (toString (n : ℤ)))).bind String.toInt? = some (n : ℤ)
    rw [encode_py]
    exact Nat.toInt?_repr n

end SmsForwarder
