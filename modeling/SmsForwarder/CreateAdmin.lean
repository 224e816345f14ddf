/-
**Creating or resetting an administrator.**

`create_admin` gives a user a new password, makes the user active and inserts the default
permissions that are missing.  A permission counts as present when one row has it, whether the row
grants or denies it and whatever its scope, and the lookup expects at most one such row.  So a
denied `admin:*` stays denied, and two rows for one permission end the command.

A user name is a Unicode text, which the driver can bind; one with a lone surrogate, which a command
line can have, is not among them.

The hash function comes from outside: what is used of it is that it accepts or refuses a password
whatever the salt, that its hashes are of a fixed length, and that a hash of a password is accepted
with that password.

Main definitions:

* `SmsForwarder.Bcrypt`, `SmsForwarder.hashPassword`, `SmsForwarder.verifyPassword`,
  `SmsForwarder.authenticate` — passwords;
* `SmsForwarder.missingPermissions`, `SmsForwarder.insertPermissions`, `SmsForwarder.createAdmin` —
  the command;
* `SmsForwarder.AdminReady` — what the command is for;
* `SmsForwarder.AdminGuard` — the tables from which it achieves that.

Main results:

* `SmsForwarder.createAdmin_eq_ok` — all that a successful command can do;
* `SmsForwarder.adminReady_iff` — **the command makes the user an administrator exactly under the
  guard**, and `SmsForwarder.denied_admin_stays_denied` is a table outside it.
-/

import Mathlib.Data.Fintype.EquivFin
import SmsForwarder.Accounts

set_option relaxedAutoImplicit false
set_option autoImplicit false

namespace SmsForwarder

open Tables

/-! ### Passwords -/

/-- The functions of `bcrypt`.  `hashpw` raises a `ValueError` on the passwords it does not accept,
whatever the salt. -/
structure Bcrypt where
  accepts : String → Bool
  hashpw : ℕ → String → String
  checkpw : String → String → Except PyError Bool
  length_hashpw : ∀ salt password, accepts password = true → (hashpw salt password).length = 60
  checkpw_hashpw : ∀ salt password, accepts password = true →
    checkpw password (hashpw salt password) = .ok true

variable (b : Bcrypt)

/-- `hash_password`, with the salt it draws. -/
def hashPassword (salt : ℕ) (password : Py.Str) : Except PyError String :=
  if password = [] then .error .valueError
  else
    match Py.encode password with
    | none => .error .unicodeEncodeError
    | some text => if b.accepts text then .ok (b.hashpw salt text) else .error .valueError

/-- `verify_password`. -/
def verifyPassword (password : Py.Str) (passwordHash : String) : Except PyError Bool :=
  if password = [] ∨ passwordHash = "" then .ok false
  else
    match Py.encode password with
    | none => .error .unicodeEncodeError
    | some text => b.checkpw text passwordHash

/-- `AuthService.authenticate`. -/
def authenticate (a : Accounts) (username : String) (password : Py.Str) : Except PyError User :=
  match oneOrNone (fun u => u.username = username) a.users with
  | none => .error .multipleResultsFound
  | some none => .error (.app (UnauthorizedError "invalid username or password"))
  | some (some user) => do
      let verified ← verifyPassword b password user.passwordHash
      if verified = false then .error (.app (UnauthorizedError "invalid username or password"))
      else if user.isActive = false then .error (.app (UnauthorizedError "user is inactive"))
      else .ok user

/-! ### The command -/

def DEFAULT_PERMISSIONS : List String :=
  ["admin:*", "device:view", "device:admin", "device:webhook:manage", "device:sms:query",
    "device:call:query", "device:contact:query", "device:battery:query", "device:location:query",
    "device:tunnel:manage"]

/-- The rows of a user for a permission. -/
def rowsFor (rows : List UserPermission) (userId : ℕ) (permission : String) :
    List UserPermission :=
  rows.filter fun r => r.userId = userId && r.permission = permission

/-- The loop over the default permissions: those without a row. -/
def missingPermissions (rows : List UserPermission) (userId : ℕ) :
    List String → Except PyError (List String)
  | [] => .ok []
  | permission :: ps =>
      match oneOrNone (fun r => r.userId = userId && r.permission = permission) rows with
      | none => .error .multipleResultsFound
      | some found => do
          let missing ← missingPermissions rows userId ps
          pure (if found.isNone then permission :: missing else missing)

/-- The row added for a permission. -/
def newPermission (rows : List UserPermission) (userId : ℕ) (permission : String) :
    UserPermission where
  id := nextKey UserPermission.id rows
  userId := userId
  permission := permission
  resourceType := none
  resourceId := none
  granted := true

/-- The table with the added rows. -/
def insertPermissions (rows : List UserPermission) (userId : ℕ) :
    List String → List UserPermission
  | [] => rows
  | permission :: ps =>
      insertPermissions (rows ++ [newPermission rows userId permission]) userId ps

/-- The user as the command leaves it: a new one, or the one found with the new password. -/
def readyUser (a : Accounts) (username passwordHash : String) (found : Option User) : User :=
  match found with
  | none =>
      { id := nextKey User.id a.users, username, passwordHash, displayName := none
        isActive := true }
  | some user => { user with passwordHash, isActive := true }

/-- The tables with that user. -/
def writeUser (a : Accounts) (username passwordHash : String) (found : Option User) : Accounts :=
  match found with
  | none => { a with users := a.users ++ [readyUser a username passwordHash found] }
  | some user =>
      { a with
        users := updateKey User.id user.id (fun _ => readyUser a username passwordHash found)
          a.users }

/-- The session after the first part of the command; only a new user is flushed there. -/
def flushUser (schema : Schema) (a : Accounts) (username passwordHash : String)
    (found : Option User) : Except PyError Accounts :=
  match found with
  | none => Accounts.commit schema (writeUser a username passwordHash found)
  | some _ => .ok (writeUser a username passwordHash found)

/-- `create_admin`. -/
def createAdmin (schema : Schema) (salt : ℕ) (a : Accounts) (username : String)
    (password : Py.Str) : Except PyError (Accounts × User) :=
  match oneOrNone (fun u => u.username = username) a.users with
  | none => .error .multipleResultsFound
  | some found => do
      let passwordHash ← hashPassword b salt password
      let a' ← flushUser schema a username passwordHash found
      let user := readyUser a username passwordHash found
      let missing ← missingPermissions a'.permissions user.id DEFAULT_PERMISSIONS
      let a'' ← Accounts.commit schema
        { a' with permissions := insertPermissions a'.permissions user.id missing }
      pure (a'', user)

/-! ### Passwords that are accepted -/

section

variable {b} {password : Py.Str} {salt : ℕ} {passwordHash : String}

theorem hashPassword_eq_ok :
    hashPassword b salt password = .ok passwordHash ↔ ∃ text, password ≠ [] ∧
      Py.encode password = some text ∧ b.accepts text = true ∧ passwordHash = b.hashpw salt text := by
  unfold hashPassword
  split
  · rename_i hempty
    simp [hempty]
  · rename_i hne
    cases henc : Py.encode password with
    | none => simp
    | some text =>
        by_cases hacc : b.accepts text = true
        · simp only [hacc, if_true, Except.ok.injEq, Option.some.injEq]
          constructor
          · rintro rfl
            exact ⟨text, hne, rfl, hacc, rfl⟩
          · rintro ⟨_, -, rfl, -, rfl⟩
            rfl
        · simp only [hacc, if_false, Bool.false_eq_true, reduceCtorEq, Option.some.injEq, false_iff]
          rintro ⟨_, -, rfl, hacc', -⟩
          exact hacc hacc'

/-- A password that is accepted once is accepted with every salt. -/
theorem hashPassword_salt (h : hashPassword b salt password = .ok passwordHash) (salt' : ℕ) :
    ∃ passwordHash', hashPassword b salt' password = .ok passwordHash' := by
  obtain ⟨text, hne, henc, hacc, -⟩ := hashPassword_eq_ok.1 h
  exact ⟨_, hashPassword_eq_ok.2 ⟨text, hne, henc, hacc, rfl⟩⟩

theorem length_hashPassword (h : hashPassword b salt password = .ok passwordHash) :
    passwordHash.length = 60 := by
  obtain ⟨text, -, -, hacc, rfl⟩ := hashPassword_eq_ok.1 h
  exact b.length_hashpw salt text hacc

/-- A hash is verified with its password. -/
theorem verifyPassword_hashPassword (h : hashPassword b salt password = .ok passwordHash) :
    verifyPassword b password passwordHash = .ok true := by
  have hlen := length_hashPassword h
  obtain ⟨text, hne, henc, hacc, rfl⟩ := hashPassword_eq_ok.1 h
  have hhash : b.hashpw salt text ≠ "" := by
    intro hempty
    simp [hempty] at hlen
  unfold verifyPassword
  rw [if_neg (not_or.2 ⟨hne, hhash⟩), henc]
  exact b.checkpw_hashpw salt text hacc

end

/-! ### The permissions -/

section

variable {rows : List UserPermission} {userId : ℕ} {ps missing : List String}

/-- The loop ends if no permission has two rows, and finds those without one. -/
theorem missingPermissions_eq_ok :
    missingPermissions rows userId ps = .ok missing ↔
      (∀ p ∈ ps, (rowsFor rows userId p).length ≤ 1) ∧
        missing = ps.filter fun p => (rowsFor rows userId p).isEmpty := by
  -- the lookup raises at the first permission with two rows, whatever is missing before it
  induction ps generalizing missing with
  | nil => simp [missingPermissions, eq_comm]
  | cons p ps ih =>
      rw [missingPermissions, List.forall_mem_cons, List.filter_cons]
      cases hone : oneOrNone (fun r => r.userId = userId && r.permission = p) rows with
      | none =>
          have hlen : 1 < (rowsFor rows userId p).length := oneOrNone_eq_none.1 hone
          have hnot : ¬ (rowsFor rows userId p).length ≤ 1 := by omega
          simp [hnot]
      | some found =>
          have hlen : (rowsFor rows userId p).length ≤ 1 := by
            by_contra hlong
            have hnone := oneOrNone_eq_none.2 (not_le.1 hlong)
            rw [hone] at hnone
            simp at hnone
          have hempty : found.isNone = (rowsFor rows userId p).isEmpty := by
            cases found with
            | none =>
                have hnil : rowsFor rows userId p = [] :=
                  List.filter_eq_nil_iff.2 fun r hr => by
                    simpa using oneOrNone_eq_none_row.1 hone r hr
                simp [hnil]
            | some r => simp [rowsFor, filter_of_oneOrNone hone]
          simp only [bind_eq_ok, ih, hempty, pure, Except.pure, Except.ok.injEq]
          constructor
          · rintro ⟨_, ⟨hone', rfl⟩, rfl⟩
            exact ⟨⟨hlen, hone'⟩, rfl⟩
          · rintro ⟨⟨-, hone'⟩, rfl⟩
            exact ⟨_, ⟨hone', rfl⟩, rfl⟩

/-- The added rows: one for each permission, granted to the user without a scope. -/
theorem insertPermissions_eq (rows : List UserPermission) (userId : ℕ) (ps : List String)
    (hid : UniqueKey UserPermission.id rows) :
    ∃ new, insertPermissions rows userId ps = rows ++ new ∧ new.map UserPermission.permission = ps ∧
      UniqueKey UserPermission.id (rows ++ new) ∧
      ∀ r ∈ new, r.userId = userId ∧ r.granted = true ∧ r.resourceType = none ∧
        r.resourceId = none := by
  induction ps generalizing rows with
  | nil => exact ⟨[], by simp [insertPermissions], rfl, by simpa using hid, by simp⟩
  | cons p ps ih =>
      obtain ⟨new, hnew, hperm, hu, hall⟩ := ih (rows ++ [newPermission rows userId p])
        (uniqueKey_concat_nextKey hid rfl)
      refine ⟨newPermission rows userId p :: new, ?_, by rw [List.map_cons, hperm]; rfl, ?_,
        List.forall_mem_cons.2 ⟨⟨rfl, rfl, rfl, rfl⟩, hall⟩⟩
      · rw [insertPermissions, hnew, List.append_assoc, List.singleton_append]
      · rwa [List.append_assoc, List.singleton_append] at hu

/-- The rows of other users are those there were. -/
theorem mem_insertPermissions_of_ne {r : UserPermission} (hid : UniqueKey UserPermission.id rows)
    (hr : r.userId ≠ userId) : r ∈ insertPermissions rows userId ps ↔ r ∈ rows := by
  obtain ⟨new, hnew, -, -, hall⟩ := insertPermissions_eq rows userId ps hid
  rw [hnew, List.mem_append]
  exact or_iff_left fun hmem => hr (hall r hmem).1

/-- What a permission has after the insertions: its rows before, and one more if it was added. -/
theorem length_rowsFor_insertPermissions (hid : UniqueKey UserPermission.id rows)
    (hnodup : ps.Nodup) (p : String) :
    (rowsFor (insertPermissions rows userId ps) userId p).length =
      (rowsFor rows userId p).length + if p ∈ ps then 1 else 0 := by
  obtain ⟨new, hnew, hperm, -, hall⟩ := insertPermissions_eq rows userId ps hid
  have hcount : (rowsFor new userId p).length = ps.count p := by
    rw [← hperm, List.count_eq_countP, List.countP_map, List.countP_eq_length_filter]
    unfold rowsFor
    congr 1
    refine List.filter_congr fun r hr => ?_
    simp only [(hall r hr).1, decide_true, Bool.true_and, Function.comp_apply, beq_eq_decide]
  have happ : rowsFor (rows ++ new) userId p = rowsFor rows userId p ++ rowsFor new userId p :=
    List.filter_append ..
  rw [hnew, happ, List.length_append, hcount, hnodup.count]

/-- After the command nothing is missing. -/
theorem missingPermissions_again (hid : UniqueKey UserPermission.id rows) (hnodup : ps.Nodup)
    (h : missingPermissions rows userId ps = .ok missing) :
    missingPermissions (insertPermissions rows userId missing) userId ps = .ok [] := by
  obtain ⟨hone, rfl⟩ := missingPermissions_eq_ok.1 h
  have hlen : ∀ p ∈ ps, (rowsFor (insertPermissions rows userId
      (ps.filter fun p => (rowsFor rows userId p).isEmpty)) userId p).length = 1 := by
    intro p hp
    rw [length_rowsFor_insertPermissions hid (hnodup.filter _)]
    have hle := hone p hp
    cases hrows : rowsFor rows userId p with
    | nil => simp [List.mem_filter, hp, hrows]
    | cons r rest =>
        rw [hrows, List.length_cons] at hle
        have hrest : rest.length = 0 := by omega
        simp [List.mem_filter, hrows, hrest]
  refine missingPermissions_eq_ok.2 ⟨fun p hp => (hlen p hp).le, ?_⟩
  symm
  rw [List.filter_eq_nil_iff]
  intro p hp hempty
  have := hlen p hp
  rw [List.isEmpty_iff.1 hempty] at this
  simp at this

end

/-! ### The constraints -/

section

variable {schema : Schema} {a : Accounts} {username passwordHash : String} {found : Option User}

/-- The added permissions break no constraint. -/
theorem Accounts.Admitted.insertPermissions {user : User} {ps : List String}
    (h : a.Admitted schema) (hu : user ∈ a.users) (hfit : ∀ p ∈ ps, fitsColumn 128 p = true) :
    ({ a with permissions := insertPermissions a.permissions user.id ps } : Accounts).Admitted
      schema := by
  obtain ⟨hfits, husers, hid, hgrants, hforeign⟩ := h
  obtain ⟨new, hnew, hperm, hids, hall⟩ := insertPermissions_eq a.permissions user.id ps hid
  -- the constraint on grants compares scoped rows only, and the added ones have no scope
  have hunscoped : (a.permissions ++ new).filter UserPermission.scoped =
      a.permissions.filter UserPermission.scoped := by
    have hnone : new.filter UserPermission.scoped = [] := by
      rw [List.filter_eq_nil_iff]
      intro r hr
      simp [UserPermission.scoped, (hall r hr).2.2.1]
    rw [List.filter_append, hnone, List.append_nil]
  unfold Accounts.Admitted Accounts.Fits Accounts.Consistent
  simp only [hnew]
  refine ⟨fun he => ⟨(hfits he).1, fun r hr => ?_⟩, husers, hids, hunscoped ▸ hgrants,
    fun r hr => ?_⟩
  · rcases List.mem_append.1 hr with hr | hr
    · exact (hfits he).2 r hr
    · obtain ⟨-, -, htype, hres⟩ := hall r hr
      have hp : r.permission ∈ ps := hperm ▸ List.mem_map_of_mem hr
      simp [UserPermission.fits, htype, hres, hfit _ hp]
  · rcases List.mem_append.1 hr with hr | hr
    · exact hforeign r hr
    · exact ⟨user, hu, (hall r hr).1.symm⟩

/-- The user is in the table. -/
theorem readyUser_mem (hfound : ∀ user, found = some user → user ∈ a.users) :
    readyUser a username passwordHash found ∈ (writeUser a username passwordHash found).users := by
  cases found with
  | none => exact List.mem_append_right _ List.mem_cons_self
  | some user =>
      exact mem_updateKey.2 (Or.inl ⟨user, hfound user rfl, rfl, rfl⟩)

theorem username_readyUser (hfound : ∀ user, found = some user → user.username = username) :
    (readyUser a username passwordHash found).username = username := by
  cases found with
  | none => rfl
  | some user => exact hfound user rfl

/-- The users of other names are those there were. -/
theorem mem_writeUser_of_ne {u : User} (hid : UniqueKey User.id a.users)
    (hfound : ∀ user, found = some user → user ∈ a.users ∧ user.username = username)
    (hu : u.username ≠ username) :
    u ∈ (writeUser a username passwordHash found).users ↔ u ∈ a.users := by
  have hname : (readyUser a username passwordHash found).username = username :=
    username_readyUser fun user h => (hfound user h).2
  cases found with
  | none =>
      change u ∈ a.users ++ [readyUser a username passwordHash none] ↔ _
      rw [List.mem_append, List.mem_singleton]
      exact or_iff_left fun heq => hu (heq ▸ hname)
  | some user =>
      obtain ⟨hmem, huser⟩ := hfound user rfl
      change u ∈ updateKey User.id user.id _ a.users ↔ _
      rw [mem_updateKey_of_uniqueKey hid hmem]
      constructor
      · rintro (rfl | ⟨h, -⟩)
        · exact absurd hname hu
        · exact h
      · exact fun h => Or.inr ⟨h, fun heq => hu (heq ▸ huser)⟩

/-- The tables with a new user meet the constraints exactly if the name fits. -/
theorem admitted_newUser (h : a.Admitted schema) (hhash : fitsColumn 255 passwordHash = true)
    (hfree : ∀ u ∈ a.users, u.username ≠ username) :
    (writeUser a username passwordHash none).Admitted schema ↔
      (schema.enforceLengths = true → username.length ≤ 128) := by
  obtain ⟨hfits, ⟨huid, huname⟩, hid, hgrants, hforeign⟩ := h
  have hfit : (readyUser a username passwordHash none).fits = true ↔ username.length ≤ 128 := by
    simp only [User.fits, readyUser, hhash, Option.all_none, Bool.and_true]
    unfold fitsColumn
    exact decide_eq_true_iff
  constructor
  · intro hw he
    exact hfit.1 ((hw.1 he).1 _ (List.mem_append_right _ List.mem_cons_self))
  · intro hlen
    refine ⟨fun he => ⟨fun u hu => ?_, (hfits he).2⟩, ⟨uniqueKey_concat_nextKey huid rfl, ?_⟩,
      hid, hgrants, fun r hr => ?_⟩
    · rcases List.mem_append.1 hu with hu | hu
      · exact (hfits he).1 u hu
      · rw [List.mem_singleton] at hu
        rw [hu]
        exact hfit.2 (hlen he)
    · exact uniqueKey_concat.2 ⟨huname, hfree⟩
    · obtain ⟨u, hu, hur⟩ := hforeign r hr
      exact ⟨u, List.mem_append_left _ hu, hur⟩

/-- With a new password for a user, the tables still meet the constraints. -/
theorem admitted_resetUser {user : User} (h : a.Admitted schema)
    (hhash : fitsColumn 255 passwordHash = true) (hmem : user ∈ a.users) :
    (writeUser a username passwordHash (some user)).Admitted schema := by
  obtain ⟨hfits, ⟨huid, huname⟩, hid, hgrants, hforeign⟩ := h
  refine ⟨fun he => ⟨fun u hu => ?_, (hfits he).2⟩, ⟨?_, ?_⟩, hid, hgrants, fun r hr => ?_⟩
  · rcases (mem_updateKey_of_uniqueKey huid hmem).1 hu with rfl | ⟨hu, -⟩
    · have huser := (hfits he).1 user hmem
      simp only [User.fits, Bool.and_eq_true] at huser
      simp [User.fits, readyUser, huser.1.1, huser.2, hhash]
    · exact (hfits he).1 u hu
  · refine (uniqueKey_updateKey fun u _ hk => ?_).2 huid
    exact hk.symm
  · refine (uniqueKey_updateKey fun u hu hk => ?_).2 huname
    rw [huid.eq hu hmem hk]
    rfl
  · obtain ⟨u, hu, hur⟩ := hforeign r hr
    by_cases hk : u.id = user.id
    · exact ⟨_, mem_updateKey.2 (Or.inl ⟨u, hu, hk, rfl⟩), hk.symm.trans hur⟩
    · exact ⟨u, mem_updateKey.2 (Or.inr ⟨hu, hk⟩), hur⟩

/-- The tables with the user meet the constraints, if the name of a new user fits. -/
theorem admitted_writeUser (h : a.Admitted schema) (hhash : passwordHash.length = 60)
    (hlook : oneOrNone (fun u => u.username = username) a.users = some found) :
    (writeUser a username passwordHash found).Admitted schema ↔
      (found = none → schema.enforceLengths = true → username.length ≤ 128) := by
  have hhash' : fitsColumn 255 passwordHash = true := by
    unfold fitsColumn
    rw [hhash]
    decide
  cases found with
  | none =>
      have hfree : ∀ u ∈ a.users, u.username ≠ username := by
        simpa using oneOrNone_eq_none_row.1 hlook
      rw [admitted_newUser h hhash' hfree]
      exact ⟨fun hlen _ => hlen, fun hlen => hlen rfl⟩
  | some user =>
      exact iff_of_true (admitted_resetUser h hhash' (mem_of_oneOrNone hlook).1) (by simp)

/-- The first part of the command goes through exactly if the name of a new user fits. -/
theorem flushUser_eq_ok {a' : Accounts} (h : a.Admitted schema) (hhash : passwordHash.length = 60)
    (hlook : oneOrNone (fun u => u.username = username) a.users = some found) :
    flushUser schema a username passwordHash found = .ok a' ↔
      a' = writeUser a username passwordHash found ∧
        (found = none → schema.enforceLengths = true → username.length ≤ 128) := by
  rw [← admitted_writeUser h hhash hlook]
  cases found with
  | none => exact Accounts.commit_eq_ok
  | some user =>
      have hadm : (writeUser a username passwordHash (some user)).Admitted schema :=
        (admitted_writeUser h hhash hlook).2 (by simp)
      rw [and_iff_left hadm]
      exact ⟨fun hok => (Except.ok.inj hok).symm, fun heq => congrArg Except.ok heq.symm⟩

end

/-! ### What the command does -/

section

variable {b} {schema : Schema} {salt : ℕ} {a : Accounts} {username : String} {password : Py.Str}

theorem fits_DEFAULT_PERMISSIONS : ∀ p ∈ DEFAULT_PERMISSIONS, fitsColumn 128 p = true := by decide

theorem nodup_DEFAULT_PERMISSIONS : DEFAULT_PERMISSIONS.Nodup := by decide

@[simp] theorem writeUser_permissions {passwordHash : String} {found : Option User} :
    (writeUser a username passwordHash found).permissions = a.permissions := by
  cases found <;> rfl

/-- **All that a successful command can do**: write the user and insert the missing permissions. -/
theorem createAdmin_eq_ok {r : Accounts × User} (hadm : a.Admitted schema) :
    createAdmin b schema salt a username password = .ok r ↔
      ∃ found passwordHash missing,
        oneOrNone (fun u => u.username = username) a.users = some found ∧
        hashPassword b salt password = .ok passwordHash ∧
        (found = none → schema.enforceLengths = true → username.length ≤ 128) ∧
        r.2 = readyUser a username passwordHash found ∧
        missingPermissions a.permissions r.2.id DEFAULT_PERMISSIONS = .ok missing ∧
        r.1 = { writeUser a username passwordHash found with
          permissions := insertPermissions a.permissions r.2.id missing } := by
  unfold createAdmin
  cases hlook : oneOrNone (fun u => decide (u.username = username)) a.users with
  | none => simp
  | some found =>
      have hfound : ∀ user, found = some user → user ∈ a.users := by
        rintro user rfl
        exact (mem_of_oneOrNone hlook).1
      constructor
      · intro h
        obtain ⟨hash, hhash, h⟩ := bind_eq_ok.1 h
        obtain ⟨a', hflush, h⟩ := bind_eq_ok.1 h
        obtain ⟨missing, hmissing, h⟩ := bind_eq_ok.1 h
        obtain ⟨a'', hcommit, h⟩ := bind_eq_ok.1 h
        obtain rfl : (a'', readyUser a username hash found) = r := by
          simpa [pure, Except.pure] using h
        obtain ⟨rfl, hname⟩ := (flushUser_eq_ok hadm (length_hashPassword hhash) hlook).1 hflush
        rw [writeUser_permissions] at hmissing hcommit
        obtain ⟨rfl, -⟩ := Accounts.commit_eq_ok.1 hcommit
        exact ⟨found, hash, missing, rfl, hhash, hname, rfl, hmissing, rfl⟩
      · rintro ⟨_, hash, missing, hsome, hhash, hname, hr₂, hmissing, hr₁⟩
        obtain rfl := Option.some.inj hsome
        obtain ⟨r₁, r₂⟩ := r
        obtain rfl : r₂ = readyUser a username hash found := hr₂
        have hw := (admitted_writeUser hadm (length_hashPassword hhash) hlook).2 hname
        have hflush := (flushUser_eq_ok hadm (length_hashPassword hhash) hlook).2 ⟨rfl, hname⟩
        have hfit : ∀ p ∈ missing, fitsColumn 128 p = true := by
          obtain ⟨-, rfl⟩ := missingPermissions_eq_ok.1 hmissing
          exact fun p hp => fits_DEFAULT_PERMISSIONS p (List.mem_of_mem_filter hp)
        have hadm' := hw.insertPermissions (readyUser_mem hfound) hfit
        rw [writeUser_permissions] at hadm'
        have hcommit := Accounts.commit_eq_ok.2 ⟨hr₁, hadm'⟩
        refine bind_eq_ok.2 ⟨hash, hhash, bind_eq_ok.2 ⟨_, hflush, bind_eq_ok.2 ⟨missing, ?_,
          bind_eq_ok.2 ⟨r₁, ?_, rfl⟩⟩⟩⟩
        · rwa [writeUser_permissions]
        · rwa [writeUser_permissions]

end

/-! ### What the command is for -/

/-- The command has made the user an administrator: the user can log in with the password and has
every permission, nothing else has changed, and one more run adds no row. -/
structure AdminMade (b : Bcrypt) (schema : Schema) (a : Accounts) (username : String)
    (password : Py.Str) (r : Accounts × User) : Prop where
  authenticated : authenticate b r.1 username password = .ok r.2
  permitted : ∀ permission, hasPermission r.1.permissions r.2.id permission = true
  otherUsers : ∀ u : User, u.username ≠ username → (u ∈ r.1.users ↔ u ∈ a.users)
  otherPermissions : ∀ row : UserPermission, row.userId ≠ r.2.id →
    (row ∈ r.1.permissions ↔ row ∈ a.permissions)
  again : ∀ salt, ∃ r', createAdmin b schema salt r.1 username password = .ok r' ∧
    r'.1.users.length = r.1.users.length ∧ r'.1.permissions = r.1.permissions

/-- The command returns and makes the user an administrator. -/
def AdminReady (b : Bcrypt) (schema : Schema) (salt : ℕ) (a : Accounts) (username : String)
    (password : Py.Str) : Prop :=
  ∃ r, createAdmin b schema salt a username password = .ok r ∧
    AdminMade b schema a username password r

/-- The tables from which the command works: the user, if there is one, has at most one row for
each default permission and no row that denies `admin:*`, and the name of a new user fits its
column. -/
structure AdminGuard (schema : Schema) (a : Accounts) (username : String) : Prop where
  oneRow : ∀ u ∈ a.users, u.username = username → ∀ p ∈ DEFAULT_PERMISSIONS,
    (rowsFor a.permissions u.id p).length ≤ 1
  notDenied : ∀ u ∈ a.users, u.username = username → ∀ row ∈ a.permissions, row.userId = u.id →
    row.permission = "admin:*" → row.granted = true
  fits : (∀ u ∈ a.users, u.username ≠ username) → schema.enforceLengths = true →
    username.length ≤ 128

section

variable {b} {schema : Schema} {salt : ℕ} {a : Accounts} {username : String} {password : Py.Str}
  {passwordHash : String} {found : Option User} {missing : List String}

/-- A user is found by name. -/
theorem oneOrNone_username {u : User} (hadm : a.Admitted schema) (hu : u ∈ a.users)
    (hname : u.username = username) :
    oneOrNone (fun u => u.username = username) a.users = some (some u) := by
  subst hname
  exact oneOrNone_of_mem hadm.2.1.2 hu

theorem exists_fresh (names : List String) : ∃ name : String, name ∉ names := by
  obtain ⟨cs, hcs⟩ := Infinite.exists_notMem_finset (names.map String.toList).toFinset
  refine ⟨String.ofList cs, fun hmem => hcs (List.mem_toFinset.2 ?_)⟩
  exact List.mem_map.2 ⟨_, hmem, String.toList_ofList⟩

theorem mem_rowsFor {rows : List UserPermission} {userId : ℕ} {p : String} {row : UserPermission} :
    row ∈ rowsFor rows userId p ↔ row ∈ rows ∧ row.userId = userId ∧ row.permission = p := by
  unfold rowsFor
  simp

/-- No permission belongs to a user that is still to come. -/
theorem rowsFor_nextKey (hforeign : ∀ row ∈ a.permissions, ∃ u ∈ a.users, u.id = row.userId)
    (p : String) : rowsFor a.permissions (nextKey User.id a.users) p = [] := by
  rw [List.eq_nil_iff_forall_not_mem]
  intro row hrow
  obtain ⟨hmem, hid, -⟩ := mem_rowsFor.1 hrow
  obtain ⟨u, hu, hur⟩ := hforeign row hmem
  have hlt : u.id < nextKey User.id a.users := lt_nextKey hu
  omega

/-- Under the guard the loop ends. -/
theorem AdminGuard.missingPermissions (passwordHash : String) (h : AdminGuard schema a username)
    (hforeign : ∀ row ∈ a.permissions, ∃ u ∈ a.users, u.id = row.userId)
    (hfound : ∀ user, found = some user → user ∈ a.users ∧ user.username = username) :
    ∃ missing, missingPermissions a.permissions (readyUser a username passwordHash found).id
      DEFAULT_PERMISSIONS = .ok missing := by
  refine ⟨_, missingPermissions_eq_ok.2 ⟨fun p hp => ?_, rfl⟩⟩
  cases found with
  | none =>
      have hnil : rowsFor a.permissions (readyUser a username passwordHash none).id p = [] :=
        rowsFor_nextKey hforeign p
      simp [hnil]
  | some user =>
      obtain ⟨hmem, hname⟩ := hfound user rfl
      exact h.oneRow user hmem hname p hp

/-- Under the guard the user is granted `admin:*` afterwards, by an old row or by a new one. -/
theorem AdminGuard.exists_admin (h : AdminGuard schema a username)
    (hid : UniqueKey UserPermission.id a.permissions)
    (hforeign : ∀ row ∈ a.permissions, ∃ u ∈ a.users, u.id = row.userId)
    (hfound : ∀ user, found = some user → user ∈ a.users ∧ user.username = username)
    (hmissing : SmsForwarder.missingPermissions a.permissions
      (readyUser a username passwordHash found).id DEFAULT_PERMISSIONS = .ok missing) :
    ∃ row ∈ insertPermissions a.permissions (readyUser a username passwordHash found).id missing,
      row.userId = (readyUser a username passwordHash found).id ∧ row.granted = true ∧
        row.permission = "admin:*" := by
  obtain ⟨new, hnew, hperm, -, hall⟩ := insertPermissions_eq a.permissions
    (readyUser a username passwordHash found).id missing hid
  rw [hnew]
  cases hrows : rowsFor a.permissions (readyUser a username passwordHash found).id "admin:*" with
  | nil =>
      have hmem : "admin:*" ∈ missing := by
        obtain ⟨-, rfl⟩ := missingPermissions_eq_ok.1 hmissing
        exact List.mem_filter.2 ⟨by decide, by simp [hrows]⟩
      obtain ⟨row, hrow, hname⟩ := List.mem_map.1 (hperm ▸ hmem)
      exact ⟨row, List.mem_append_right _ hrow, (hall row hrow).1, (hall row hrow).2.1, hname⟩
  | cons row rest =>
      have hrow : row ∈ rowsFor a.permissions (readyUser a username passwordHash found).id
          "admin:*" := hrows ▸ List.mem_cons_self
      obtain ⟨hmem, huser, hname⟩ := mem_rowsFor.1 hrow
      refine ⟨row, List.mem_append_left _ hmem, huser, ?_, hname⟩
      cases found with
      | none =>
          rw [show (readyUser a username passwordHash none).id = nextKey User.id a.users from rfl,
            rowsFor_nextKey hforeign] at hrow
          simp at hrow
      | some user =>
          obtain ⟨humem, huname⟩ := hfound user rfl
          exact h.notDenied user humem huname row hmem huser hname

/-- The user that was written can log in. -/
theorem authenticate_readyUser {permissions : List UserPermission} (hadm : a.Admitted schema)
    (hlook : oneOrNone (fun u => u.username = username) a.users = some found)
    (hhash : hashPassword b salt password = .ok passwordHash)
    (hname : found = none → schema.enforceLengths = true → username.length ≤ 128) :
    authenticate b { writeUser a username passwordHash found with permissions } username password =
      .ok (readyUser a username passwordHash found) := by
  have hfound : ∀ user, found = some user → user ∈ a.users ∧ user.username = username := by
    rintro user rfl
    simpa using mem_of_oneOrNone hlook
  have hw := (admitted_writeUser hadm (length_hashPassword hhash) hlook).2 hname
  have hone : oneOrNone (fun u => u.username = username)
      (writeUser a username passwordHash found).users =
        some (some (readyUser a username passwordHash found)) :=
    oneOrNone_username hw (readyUser_mem fun user h => (hfound user h).1)
      (username_readyUser fun user h => (hfound user h).2)
  have hrow : (readyUser a username passwordHash found).passwordHash = passwordHash ∧
      (readyUser a username passwordHash found).isActive = true := by
    cases found <;> exact ⟨rfl, rfl⟩
  unfold authenticate
  rw [hone]
  refine bind_eq_ok.2 ⟨true, ?_, ?_⟩
  · rw [hrow.1]
    exact verifyPassword_hashPassword hhash
  · simp [hrow.2]

/-- One more run finds the user and nothing missing. -/
theorem createAdmin_again {r : Accounts × User} (hadm : a.Admitted schema)
    (h : createAdmin b schema salt a username password = .ok r) (salt' : ℕ) :
    ∃ r', createAdmin b schema salt' r.1 username password = .ok r' ∧
      r'.1.users.length = r.1.users.length ∧ r'.1.permissions = r.1.permissions := by
  obtain ⟨found, hash, missing, hlook, hhash, hname, hr₂, hmissing, hr₁⟩ :=
    (createAdmin_eq_ok hadm).1 h
  have hfound : ∀ user, found = some user → user ∈ a.users ∧ user.username = username := by
    rintro user rfl
    simpa using mem_of_oneOrNone hlook
  have hid : UniqueKey UserPermission.id a.permissions := hadm.2.2.1
  have hw := (admitted_writeUser hadm (length_hashPassword hhash) hlook).2 hname
  have hmem : r.2 ∈ (writeUser a username hash found).users :=
    hr₂ ▸ readyUser_mem fun user h => (hfound user h).1
  have huname : r.2.username = username :=
    hr₂ ▸ username_readyUser fun user h => (hfound user h).2
  have hadm' : r.1.Admitted schema := by
    have hfit : ∀ p ∈ missing, fitsColumn 128 p = true := by
      obtain ⟨-, rfl⟩ := missingPermissions_eq_ok.1 hmissing
      exact fun p hp => fits_DEFAULT_PERMISSIONS p (List.mem_of_mem_filter hp)
    have hins := hw.insertPermissions hmem hfit
    rw [writeUser_permissions] at hins
    rw [hr₁]
    exact hins
  have husers : r.1.users = (writeUser a username hash found).users := by rw [hr₁]
  have hperms : r.1.permissions = insertPermissions a.permissions r.2.id missing := by rw [hr₁]
  obtain ⟨hash', hhash'⟩ := hashPassword_salt hhash salt'
  have hlook' : oneOrNone (fun u => u.username = username) r.1.users = some (some r.2) :=
    oneOrNone_username hadm' (husers ▸ hmem) huname
  -- the second run finds the user of the first one, and each default permission has its row
  have hmissing' : missingPermissions r.1.permissions r.2.id DEFAULT_PERMISSIONS = .ok [] := by
    rw [hperms]
    exact missingPermissions_again hid nodup_DEFAULT_PERMISSIONS hmissing
  refine ⟨(writeUser r.1 username hash' (some r.2), readyUser r.1 username hash' (some r.2)),
    (createAdmin_eq_ok hadm').2 ⟨some r.2, hash', [], hlook', hhash', by simp, rfl, hmissing', rfl⟩,
    ?_, rfl⟩
  exact List.length_map _

theorem adminReady_of_guard (hadm : a.Admitted schema)
    (hhash : hashPassword b salt password = .ok passwordHash)
    (h : AdminGuard schema a username) : AdminReady b schema salt a username password := by
  obtain ⟨found, hlook⟩ : ∃ found,
      oneOrNone (fun u => u.username = username) a.users = some found :=
    ⟨_, oneOrNone_eq_lookup hadm.2.1.2⟩
  have hfound : ∀ user, found = some user → user ∈ a.users ∧ user.username = username := by
    rintro user rfl
    simpa using mem_of_oneOrNone hlook
  have hname : found = none → schema.enforceLengths = true → username.length ≤ 128 := by
    rintro rfl
    exact h.fits (by simpa using oneOrNone_eq_none_row.1 hlook)
  have hid : UniqueKey UserPermission.id a.permissions := hadm.2.2.1
  have hforeign := hadm.2.2.2.2
  obtain ⟨missing, hmissing⟩ := h.missingPermissions passwordHash hforeign hfound
  have hok : createAdmin b schema salt a username password = .ok
      ({ writeUser a username passwordHash found with
          permissions := insertPermissions a.permissions
            (readyUser a username passwordHash found).id missing },
        readyUser a username passwordHash found) :=
    (createAdmin_eq_ok hadm).2 ⟨found, passwordHash, missing, hlook, hhash, hname, rfl, hmissing,
      rfl⟩
  refine ⟨_, hok, authenticate_readyUser hadm hlook hhash hname, fun permission => ?_,
    fun u hu => mem_writeUser_of_ne hadm.2.1.1 hfound hu,
    fun row hrow => mem_insertPermissions_of_ne hid hrow, createAdmin_again hadm hok⟩
  obtain ⟨row, hrow, huser, hgranted, hadmin⟩ := h.exists_admin hid hforeign hfound hmissing
  exact hasPermission_eq_true.2 (Or.inr ⟨row, hrow, huser, hgranted, Or.inr hadmin⟩)

/-- Two members of a list of at most one are equal. -/
theorem eq_of_length_le_one {α : Type} {l : List α} {x y : α} (h : l.length ≤ 1) (hx : x ∈ l)
    (hy : y ∈ l) : x = y := by
  match l, h with
  | [z], _ =>
    rw [List.mem_singleton] at hx hy
    rw [hx, hy]

/-- A row that denies `admin:*` is left as it is, and then some permission is missing. -/
theorem AdminMade.notDenied {r : Accounts × User} {row : UserPermission}
    (hadm : a.Admitted schema) (hmissing : missingPermissions a.permissions r.2.id
      DEFAULT_PERMISSIONS = .ok missing)
    (hperms : r.1.permissions = insertPermissions a.permissions r.2.id missing)
    (h : AdminMade b schema a username password r) (hrow : row ∈ a.permissions)
    (huser : row.userId = r.2.id) (hname : row.permission = "admin:*") : row.granted = true := by
  have hid : UniqueKey UserPermission.id a.permissions := hadm.2.2.1
  obtain ⟨hone, hmiss⟩ := missingPermissions_eq_ok.1 hmissing
  have hold : row ∈ rowsFor a.permissions r.2.id "admin:*" := mem_rowsFor.2 ⟨hrow, huser, hname⟩
  have hpresent : "admin:*" ∉ missing := by
    rw [hmiss, List.mem_filter]
    rintro ⟨-, hempty⟩
    rw [List.isEmpty_iff.1 hempty] at hold
    simp at hold
  have hnodup : missing.Nodup := hmiss ▸ nodup_DEFAULT_PERMISSIONS.filter _
  have hlen : (rowsFor r.1.permissions r.2.id "admin:*").length ≤ 1 := by
    rw [hperms, length_rowsFor_insertPermissions hid hnodup, if_neg hpresent]
    exact hone "admin:*" (by decide)
  -- a permission that occurs nowhere is granted by a row for `admin:*`, and that is `row`
  obtain ⟨fresh, hfresh⟩ := exists_fresh ("" :: r.1.permissions.map UserPermission.permission)
  rw [List.mem_cons, not_or] at hfresh
  rcases hasPermission_eq_true.1 (h.permitted fresh) with
    hempty | ⟨row', hrow', huser', hgranted, hp⟩
  · exact absurd hempty hfresh.1
  · rcases hp with hp | hp
    · exact absurd (List.mem_map.2 ⟨row', hrow', hp⟩) hfresh.2
    · have hmem : row ∈ r.1.permissions := by
        obtain ⟨new, hnew, -⟩ := insertPermissions_eq a.permissions r.2.id missing hid
        rw [hperms, hnew]
        exact List.mem_append_left _ hrow
      have heq : row = row' := eq_of_length_le_one hlen (mem_rowsFor.2 ⟨hmem, huser, hname⟩)
        (mem_rowsFor.2 ⟨hrow', huser', hp⟩)
      rw [heq]
      exact hgranted

theorem guard_of_adminReady (hadm : a.Admitted schema)
    (h : AdminReady b schema salt a username password) : AdminGuard schema a username := by
  obtain ⟨r, hr, hmade⟩ := h
  obtain ⟨found, hash, missing, hlook, -, hname, hr₂, hmissing, hr₁⟩ :=
    (createAdmin_eq_ok hadm).1 hr
  have hperms : r.1.permissions = insertPermissions a.permissions r.2.id missing := by rw [hr₁]
  have hid : ∀ u ∈ a.users, u.username = username → u.id = r.2.id := by
    intro u hu huname
    have hone : oneOrNone (fun u => u.username = username) a.users = some (some u) :=
      oneOrNone_username hadm hu huname
    obtain rfl : found = some u := Option.some.inj (hlook.symm.trans hone)
    rw [hr₂]
    rfl
  refine ⟨fun u hu huname p hp => ?_, fun u hu huname row hrow huser hadmin => ?_, fun hnew => ?_⟩
  · rw [hid u hu huname]
    exact (missingPermissions_eq_ok.1 hmissing).1 p hp
  · exact hmade.notDenied hadm hmissing hperms hrow (huser.trans (hid u hu huname)) hadmin
  · refine hname ?_
    have hnone : oneOrNone (fun u => u.username = username) a.users = some none :=
      oneOrNone_eq_none_row.2 (by simpa using hnew)
    exact Option.some.inj (hlook.symm.trans hnone)

end

/-- **The command makes the user an administrator exactly under the guard**: for all tables that
meet their constraints and all passwords that are accepted. -/
theorem adminReady_iff (b : Bcrypt) (schema : Schema) (salt : ℕ) (a : Accounts) (username : String)
    (password : Py.Str) (passwordHash : String) (hadm : a.Admitted schema)
    (hhash : hashPassword b salt password = .ok passwordHash) :
    AdminReady b schema salt a username password ↔ AdminGuard schema a username :=
  ⟨guard_of_adminReady hadm, adminReady_of_guard hadm hhash⟩

/-- Hashes that show the password, cut off at sixty characters like those of `bcrypt`. -/
def plainBcrypt : Bcrypt where
  accepts password := password.length ≤ 59
  hashpw _ password :=
    String.ofList (password.toList ++ List.replicate (60 - password.length) '$')
  checkpw password passwordHash :=
    .ok (passwordHash =
      String.ofList (password.toList ++ List.replicate (60 - password.length) '$'))
  length_hashpw _ password h := by
    have hlen : password.length ≤ 59 := of_decide_eq_true h
    rw [String.length_ofList, List.length_append, List.length_replicate, String.length_toList]
    omega
  checkpw_hashpw _ _ _ := by simp

def lockedOut : User :=
  { id := 1, username := "admin", passwordHash := "", displayName := none, isActive := false }

/-- A row of that user for a permission. -/
def rowOf (id : ℕ) (permission : String) (resourceId : Option String) (granted : Bool) :
    UserPermission where
  id := id
  userId := 1
  permission := permission
  resourceType := resourceId.map fun _ => "device"
  resourceId := resourceId
  granted := granted

theorem lockedOut_adminReady :
    AdminReady plainBcrypt migrationSchema 0 ⟨[lockedOut], [rowOf 1 "device:view" none false]⟩
        "admin" (Py.py "secret123") ↔
      AdminGuard migrationSchema ⟨[lockedOut], [rowOf 1 "device:view" none false]⟩ "admin" :=
  adminReady_iff plainBcrypt migrationSchema 0 _ "admin" (Py.py "secret123") _ (by decide) rfl

/-- **A denied `admin:*` stays denied**: the command returns, and the user has no more permissions
than the other default ones. -/
theorem denied_admin_stays_denied :
    (⟨[lockedOut], [rowOf 1 "admin:*" none false]⟩ : Accounts).Admitted migrationSchema ∧
      ¬ AdminReady plainBcrypt migrationSchema 0 ⟨[lockedOut], [rowOf 1 "admin:*" none false]⟩
        "admin" (Py.py "secret123") := by
  have hadm : (⟨[lockedOut], [rowOf 1 "admin:*" none false]⟩ : Accounts).Admitted
      migrationSchema := by decide
  refine ⟨hadm, fun hready => ?_⟩
  have hgranted := (guard_of_adminReady hadm hready).notDenied lockedOut (by decide) rfl
    (rowOf 1 "admin:*" none false) (by decide) rfl rfl
  exact absurd hgranted (by decide)

/-- **Two rows for one permission end the command**, with an exception of the lookup. -/
theorem two_rows_end_create_admin :
    (⟨[lockedOut], [rowOf 1 "device:view" none true, rowOf 2 "device:view" (some "dev_1") true]⟩ :
        Accounts).Admitted migrationSchema ∧
      createAdmin plainBcrypt migrationSchema 0
          ⟨[lockedOut], [rowOf 1 "device:view" none true, rowOf 2 "device:view" (some "dev_1") true]⟩
          "admin" (Py.py "secret123") = .error .multipleResultsFound :=
  ⟨by decide, rfl⟩

end SmsForwarder
