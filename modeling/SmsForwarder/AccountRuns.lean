/-
**The accounts along runs.**

No request touches the accounts, so what they hold after a run was put there by the runs of
`create_admin` in it.  The command only ever adds: a user that exists gets a new password and is
made active, nobody is removed, nothing that was granted is taken back.  So from empty tables the
users are the names the command was run for, each as the last such run left it; each of them has
every default permission, by one row without a scope; and then neither the lookup of the command,
which expects at most one row, nor the check in front of a route ever refuses anybody.

Main definitions:

* `SmsForwarder.passwordSet` — a call that gave a user a password;
* `SmsForwarder.Provisioned` — the accounts `create_admin` builds up from nothing.

Main results:

* `SmsForwarder.lookup_run` — the users are those of the last runs of the command;
* `SmsForwarder.login_run` — **a password logs in exactly if the last one that was set accepts it**;
* `SmsForwarder.provisioned_run` — **the command never fails on a table it made, and the permission
  check lets in whoever is signed in.**
-/

import SmsForwarder.ApiEffects

set_option relaxedAutoImplicit false
set_option autoImplicit false

namespace SmsForwarder

open Py Tables Runs

/-! ### The users -/

/-- An executed operation of a run. -/
abbrev SystemCall (iso : FrpsService.IsoFormat) := Call ApiState SystemOp (SystemAnswer iso)

/-- The password that a call set for a user, with the row of the user. -/
def passwordSet {iso : FrpsService.IsoFormat} (username : String) (c : SystemCall iso) :
    Option (Str × User) :=
  match c.op, c.answer with
  | .createAdmin _ name password, .admin (.ok user) =>
      if name = username then some (password, user) else none
  | _, _ => none

section

variable {b : Bcrypt} {schema : Schema} {salt : ℕ} {a : Accounts} {username : String}
  {password : Str} {r : Accounts × User}

/-- The command writes the user it is run for, and no other. -/
theorem lookup_createAdmin (hadm : a.Admitted schema)
    (h : createAdmin b schema salt a username password = .ok r) (name : String) :
    lookup User.username name r.1.users =
      if username = name then some r.2 else lookup User.username name a.users := by
  obtain ⟨found, hash, missing, hlook, hhash, hname, hr₂, -, hr₁⟩ := (createAdmin_eq_ok hadm).1 h
  have hw := (admitted_writeUser hadm (length_hashPassword hhash) hlook).2 hname
  have husers : r.1.users = (writeUser a username hash found).users := by rw [hr₁]
  rw [husers, hr₂]
  cases found with
  | none => exact lookup_concat hw.2.1.2
  | some user =>
      obtain ⟨hmem, huser⟩ := mem_of_oneOrNone hlook
      obtain rfl : user.username = username := by simpa using huser
      exact lookup_updateKey hadm.2.1.1 hadm.2.1.2 hmem rfl

/-- The row the command returns has a hash of the password. -/
theorem passwordHash_createAdmin (hadm : a.Admitted schema)
    (h : createAdmin b schema salt a username password = .ok r) :
    hashPassword b salt password = .ok r.2.passwordHash := by
  obtain ⟨found, hash, missing, -, hhash, -, hr₂, -, -⟩ := (createAdmin_eq_ok hadm).1 h
  rw [hhash, hr₂]
  cases found <;> rfl

end

/-! ### What the command builds up -/

/-- The accounts that `create_admin` builds up from nothing: all users are active, nothing is
denied, every user has one row for each default permission, and the identifiers count the runs. -/
structure Provisioned (n : ℕ) (a : Accounts) : Prop where
  active : ∀ u ∈ a.users, u.isActive = true
  granted : ∀ row ∈ a.permissions, row.granted = true
  complete : ∀ u ∈ a.users, ∀ p ∈ DEFAULT_PERMISSIONS, (rowsFor a.permissions u.id p).length = 1
  ids : ∀ u ∈ a.users, u.id ≤ n

section

variable {b : Bcrypt} {schema : Schema} {salt n : ℕ} {a : Accounts} {username passwordHash : String}
  {password : Str} {r : Accounts × User} {found : Option User}

theorem provisioned_empty : Provisioned 0 ApiState.empty.accounts := by
  constructor <;> simp [ApiState.empty]

theorem Provisioned.mono (h : Provisioned n a) : Provisioned (n + 1) a where
  active := h.active
  granted := h.granted
  complete := h.complete
  ids u hu := by
    have := h.ids u hu
    omega

/-- The user of the command, and the users there were. -/
theorem mem_writeUser {u : User} (h : u ∈ (writeUser a username passwordHash found).users) :
    u = readyUser a username passwordHash found ∨
      u ∈ a.users ∧ u.id ≠ (readyUser a username passwordHash found).id := by
  cases found with
  | none =>
      rcases List.mem_append.1 h with hu | hu
      · refine Or.inr ⟨hu, fun hid => ?_⟩
        have hlt : u.id < nextKey User.id a.users := lt_nextKey hu
        simp only [readyUser] at hid
        omega
      · exact Or.inl (List.mem_singleton.1 hu)
  | some user =>
      rcases mem_updateKey.1 h with ⟨u', -, -, heq⟩ | ⟨hu, hne⟩
      · exact Or.inl heq.symm
      · exact Or.inr ⟨hu, hne⟩

/-- The rows of other users are found as before. -/
theorem rowsFor_insertPermissions_of_ne {rows : List UserPermission} {userId other : ℕ}
    {ps : List String} (hid : UniqueKey UserPermission.id rows) (hne : other ≠ userId)
    (p : String) : rowsFor (insertPermissions rows userId ps) other p = rowsFor rows other p := by
  obtain ⟨new, hnew, -, -, hall⟩ := insertPermissions_eq rows userId ps hid
  have hnone : rowsFor new other p = [] := by
    rw [List.eq_nil_iff_forall_not_mem]
    intro row hrow
    obtain ⟨hmem, huser, -⟩ := mem_rowsFor.1 hrow
    exact hne (huser.symm.trans (hall row hmem).1)
  rw [hnew]
  show List.filter _ (rows ++ new) = _
  rw [List.filter_append]
  show rowsFor rows other p ++ rowsFor new other p = _
  rw [hnone, List.append_nil]

/-- **The command keeps the accounts provisioned.** -/
theorem Provisioned.createAdmin (h : Provisioned n a) (hadm : a.Admitted schema)
    (hok : createAdmin b schema salt a username password = .ok r) : Provisioned (n + 1) r.1 := by
  obtain ⟨found, hash, missing, hlook, -, -, hr₂, hmissing, hr₁⟩ := (createAdmin_eq_ok hadm).1 hok
  have hid : UniqueKey UserPermission.id a.permissions := hadm.2.2.1
  obtain ⟨hone, hmiss⟩ := missingPermissions_eq_ok.1 hmissing
  have hready : r.2.isActive = true ∧ r.2.id ≤ n + 1 := by
    rw [hr₂]
    cases found with
    | none => exact ⟨rfl, nextKey_le h.ids⟩
    | some user => exact ⟨rfl, h.mono.ids user (mem_of_oneOrNone hlook).1⟩
  have husers : ∀ u ∈ r.1.users, u = r.2 ∨ u ∈ a.users ∧ u.id ≠ r.2.id := by
    intro u hu
    rw [hr₁] at hu
    rw [hr₂]
    exact mem_writeUser hu
  have hperms : r.1.permissions = insertPermissions a.permissions r.2.id missing := by rw [hr₁]
  refine ⟨fun u hu => ?_, fun row hrow => ?_, fun u hu p hp => ?_, fun u hu => ?_⟩
  · rcases husers u hu with rfl | ⟨hold, -⟩
    · exact hready.1
    · exact h.active u hold
  · obtain ⟨new, hnew, -, -, hall⟩ := insertPermissions_eq a.permissions r.2.id missing hid
    rw [hperms, hnew] at hrow
    rcases List.mem_append.1 hrow with hold | hrow
    · exact h.granted row hold
    · exact (hall row hrow).2.1
  · rw [hperms]
    rcases husers u hu with rfl | ⟨hold, hne⟩
    · -- a permission without a row was missing, and one with a row was not
      rw [length_rowsFor_insertPermissions hid (hmiss ▸ nodup_DEFAULT_PERMISSIONS.filter _)]
      have hle := hone p hp
      cases hrows : rowsFor a.permissions r.2.id p with
      | nil =>
          have hmem : p ∈ missing := hmiss ▸ List.mem_filter.2 ⟨hp, by simp [hrows]⟩
          simp [hmem]
      | cons row rest =>
          have hnot : p ∉ missing := by
            rw [hmiss, List.mem_filter]
            simp [hrows]
          rw [hrows] at hle
          rw [if_neg hnot]
          simp only [List.length_cons] at hle ⊢
          omega
    · rw [rowsFor_insertPermissions_of_ne hid hne]
      exact h.complete u hold p hp
  · rcases husers u hu with rfl | ⟨hold, -⟩
    · exact hready.2
    · exact h.mono.ids u hold

/-- Provisioned accounts are the ones the command works on. -/
theorem Provisioned.guard (h : Provisioned n a)
    (hfits : schema.enforceLengths = true → username.length ≤ 128) :
    AdminGuard schema a username where
  oneRow u hu _ p hp := (h.complete u hu p hp).le
  notDenied _ _ _ row hrow _ _ := h.granted row hrow
  fits _ := hfits

/-- A user of provisioned accounts has every permission. -/
theorem Provisioned.hasPermission (h : Provisioned n a) {u : User} (hu : u ∈ a.users)
    (permission : String) : hasPermission a.permissions u.id permission = true := by
  have hone := h.complete u hu "admin:*" (by decide)
  obtain ⟨row, hrow⟩ := List.exists_mem_of_length_pos (hone.symm ▸ Nat.one_pos)
  obtain ⟨hmem, huser, hname⟩ := mem_rowsFor.1 hrow
  exact hasPermission_eq_true.2 (Or.inr ⟨row, hmem, huser, h.granted row hmem, Or.inr hname⟩)

/-- A route with a permission decides on a caller as the routes do that ask for a user alone. -/
theorem Provisioned.authorize {e : AuthEnv} (h : Provisioned n a) (hadm : a.Admitted schema)
    (permission : String) (credentials : Option Credentials) (now : Timestamp) :
    SmsForwarder.authorize e a (.permission permission) credentials now =
      SmsForwarder.authorize e a .signedIn credentials now := by
  unfold SmsForwarder.authorize
  cases hcurrent : getCurrentUser e a credentials now with
  | error err => rfl
  | ok user =>
      obtain ⟨hmem, hactive, -⟩ := (getCurrentUser_eq_ok hadm.2.1.1).1 hcurrent
      have hcheck : requirePermission a permission user = .ok user :=
        requirePermission_eq_ok.2 ⟨rfl, hactive, h.hasPermission hmem permission⟩
      simp only [bind, Except.bind, hcheck]
      rfl

end

/-! ### Every run from empty tables -/

section

variable {e : AuthEnv} {iso : FrpsService.IsoFormat}

/-- What holds of the accounts after every run, with the record of the run. -/
structure AccountsInvariant (e : AuthEnv) {iso : FrpsService.IsoFormat} (s : ApiState)
    (tr : List (SystemCall iso)) : Prop where
  admitted : s.Admitted e.env.schema
  provisioned : Provisioned tr.length s.accounts
  users : ∀ username, lookup User.username username s.accounts.users =
    (last (passwordSet username) tr).map Prod.snd
  hashes : ∀ username password user, last (passwordSet username) tr = some (password, user) →
    ∃ salt, hashPassword e.bcrypt salt password = .ok user.passwordHash

theorem accountsInvariant_empty :
    AccountsInvariant e ApiState.empty ([] : List (SystemCall iso)) where
  admitted := ApiState.admitted_empty _
  provisioned := provisioned_empty
  users _ := rfl
  hashes _ _ _ h := by simp at h

/-- A call that sets no password and leaves the accounts alone keeps the invariant. -/
theorem AccountsInvariant.keep {s s' : ApiState} {tr : List (SystemCall iso)} {c : SystemCall iso}
    (h : AccountsInvariant e s tr) (hadm : s'.Admitted e.env.schema)
    (haccounts : s'.accounts = s.accounts) (hnone : ∀ username, passwordSet username c = none) :
    AccountsInvariant e s' (tr ++ [c]) where
  admitted := hadm
  provisioned := by
    rw [haccounts, List.length_append]
    exact h.provisioned.mono
  users username := by
    rw [haccounts, last_concat, hnone]
    exact h.users username
  hashes username password user hlast := by
    rw [last_concat, hnone] at hlast
    exact h.hashes username password user hlast

/-- Every operation keeps the invariant. -/
theorem AccountsInvariant.step {s : ApiState} {tr : List (SystemCall iso)} (op : SystemOp)
    (h : AccountsInvariant e s tr) :
    AccountsInvariant e (op.exec e iso s).2 (tr ++ [call (SystemOp.exec e iso) s op]) := by
  have hadm : (op.exec e iso s).2.Admitted e.env.schema := admitted_system op h.admitted
  cases op with
  | request req => exact h.keep hadm accounts_serve fun _ => rfl
  | createAdmin salt name password =>
      rcases attempt_cases (createAdmin e.bcrypt e.env.schema salt s.accounts name password)
        s.accounts with ⟨a', user, hok, hattempt⟩ | ⟨err, -, hattempt⟩
      · have hset : ∀ username, passwordSet username
            (call (SystemOp.exec e iso) s (.createAdmin salt name password)) =
              if name = username then some (password, user) else none := by
          intro username
          simp only [call, passwordSet, SystemOp.exec, hattempt]
        have haccounts : ((SystemOp.createAdmin salt name password).exec e iso s).2.accounts = a' :=
          congrArg Prod.snd hattempt
        refine ⟨hadm, ?_, fun username => ?_, fun username password' user' hlast => ?_⟩
        · rw [haccounts, List.length_append]
          exact h.provisioned.createAdmin h.admitted.accounts hok
        · rw [haccounts, last_concat, hset, lookup_createAdmin h.admitted.accounts hok]
          split
          · rfl
          · exact h.users username
        · rw [last_concat, hset] at hlast
          split at hlast
          · obtain ⟨rfl, rfl⟩ : password = password' ∧ user = user' := by simpa using hlast
            exact ⟨salt, passwordHash_createAdmin h.admitted.accounts hok⟩
          · exact h.hashes username password' user' hlast
      · refine h.keep hadm (congrArg Prod.snd hattempt) fun username => ?_
        simp only [call, passwordSet, SystemOp.exec, hattempt]

theorem accountsInvariant_run (e : AuthEnv) (iso : FrpsService.IsoFormat) (ops : List SystemOp) :
    AccountsInvariant e (final (SystemOp.exec e iso) ApiState.empty ops)
      (trace (SystemOp.exec e iso) ApiState.empty ops) :=
  run_induction (SystemOp.exec e iso) accountsInvariant_empty (fun _ _ op h => h.step op) ops

/-- **The users are those of the last runs of the command.** -/
theorem lookup_run (ops : List SystemOp) (username : String) :
    lookup User.username username
        (final (SystemOp.exec e iso) ApiState.empty ops).accounts.users =
      (last (passwordSet username) (trace (SystemOp.exec e iso) ApiState.empty ops)).map Prod.snd :=
  (accountsInvariant_run e iso ops).users username

end

/-- **A password logs in exactly if the last one that was set accepts it.**  In every run from empty
tables, requests and runs of `create_admin` in any order, a user name and a password are
authenticated exactly if a run of `create_admin` succeeded for the name and the hash made by the
last one of them verifies with the password, which it does with the password it was made from; the
user is the one which that run returned. -/
theorem login_run (e : AuthEnv) (iso : FrpsService.IsoFormat) (ops : List SystemOp)
    (username : String) :
    (∀ password user,
      authenticate e.bcrypt (final (SystemOp.exec e iso) ApiState.empty ops).accounts username
          password = .ok user ↔
        (∃ set, last (passwordSet username) (trace (SystemOp.exec e iso) ApiState.empty ops) =
            some (set, user)) ∧
          verifyPassword e.bcrypt password user.passwordHash = .ok true) ∧
      ∀ set user,
        last (passwordSet username) (trace (SystemOp.exec e iso) ApiState.empty ops) =
            some (set, user) →
          verifyPassword e.bcrypt set user.passwordHash = .ok true := by
  have hinv := accountsInvariant_run e iso ops
  have hname := hinv.admitted.accounts.2.1.2
  constructor
  · intro password user
    have hlook := lookup_eq_some_iff (k := username) (r := user) hname
    rw [lookup_run, Option.map_eq_some_iff] at hlook
    rw [authenticate_eq_ok hname]
    constructor
    · rintro ⟨hmem, huser, -, hverify⟩
      obtain ⟨⟨set, user'⟩, hlast, heq⟩ := hlook.2 ⟨hmem, huser⟩
      obtain rfl : user' = user := heq
      exact ⟨⟨set, hlast⟩, hverify⟩
    · rintro ⟨⟨set, hlast⟩, hverify⟩
      obtain ⟨hmem, huser⟩ := hlook.1 ⟨(set, user), hlast, rfl⟩
      exact ⟨hmem, huser, hinv.provisioned.active user hmem, hverify⟩
  · intro set user hlast
    obtain ⟨salt, hhash⟩ := hinv.hashes username set user hlast
    exact verifyPassword_hashPassword hhash

/-- **The command never fails on a table it made, and the permission check lets in whoever is signed
in.**  In every state that a run from empty tables reaches, `create_admin` succeeds for every
password that `bcrypt` takes and every name that fits its column; and every route with a permission
decides on a caller as the routes do that ask for a user alone. -/
theorem provisioned_run (e : AuthEnv) (iso : FrpsService.IsoFormat) (ops : List SystemOp) :
    (∀ salt username password,
      (∃ r, createAdmin e.bcrypt e.env.schema salt
          (final (SystemOp.exec e iso) ApiState.empty ops).accounts username password = .ok r) ↔
        (∃ passwordHash, hashPassword e.bcrypt salt password = .ok passwordHash) ∧
          (e.env.schema.enforceLengths = true → username.length ≤ 128)) ∧
      ∀ permission credentials now,
        authorize e (final (SystemOp.exec e iso) ApiState.empty ops).accounts
            (.permission permission) credentials now =
          authorize e (final (SystemOp.exec e iso) ApiState.empty ops).accounts
            .signedIn credentials now := by
  have hinv := accountsInvariant_run e iso ops
  have hadm := hinv.admitted.accounts
  refine ⟨fun salt username password => ⟨?_, ?_⟩, fun permission credentials now => ?_⟩
  · rintro ⟨r, hok⟩
    refine ⟨⟨_, passwordHash_createAdmin hadm hok⟩, fun hlen => ?_⟩
    -- the user is in a table whose values fit
    have hlook := lookup_createAdmin hadm hok username
    have hadm' := admitted_createAdmin hok
    rw [if_pos rfl, lookup_eq_some_iff hadm'.2.1.2] at hlook
    have hfits := (hadm'.1 hlen).1 r.2 hlook.1
    simp only [User.fits, Bool.and_eq_true] at hfits
    rw [← hlook.2]
    exact of_decide_eq_true hfits.1.1
  · rintro ⟨⟨passwordHash, hhash⟩, hfits⟩
    obtain ⟨r, hok, -⟩ := adminReady_of_guard hadm hhash (hinv.provisioned.guard hfits)
    exact ⟨r, hok⟩
  · exact hinv.provisioned.authorize hadm permission credentials now

end SmsForwarder
