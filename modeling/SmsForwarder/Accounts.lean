/-
**Users and their permissions.**

A permission row grants or denies one permission to one user, for everything or for one resource.
The check in front of a route looks for a granted row with the permission of the route, or with
`admin:*`.  It is made before the body of the route runs and knows only the user and the permission:
the scope of a row takes no part in it, and neither does the device that is asked for.

Main definitions:

* `SmsForwarder.User`, `SmsForwarder.UserPermission`, `SmsForwarder.Accounts` — the two tables, with
  their constraints `SmsForwarder.Accounts.Admitted`;
* `SmsForwarder.hasPermission`, `SmsForwarder.requirePermission` — the check;
* `SmsForwarder.deviceRoute`, `SmsForwarder.GrantsAccess` — a guarded route, and whom it serves.

Main results:

* `SmsForwarder.requirePermission_eq_ok` — when the check passes;
* `SmsForwarder.access_ignores_scope` — **a route serves all devices or none**, and
  `SmsForwarder.scoped_grant_opens_other_device` — a grant for one device opens another.
-/

import SmsForwarder.DeviceService

set_option relaxedAutoImplicit false
set_option autoImplicit false

namespace SmsForwarder

open Tables

/-! ### The tables -/

structure User where
  id : ℕ
  username : String
  passwordHash : String
  displayName : Option String
  isActive : Bool
  deriving DecidableEq, Repr

structure UserPermission where
  id : ℕ
  userId : ℕ
  permission : String
  resourceType : Option String
  resourceId : Option String
  granted : Bool
  deriving DecidableEq, Repr

/-- The tables `users` and `user_permissions`. -/
structure Accounts where
  users : List User
  permissions : List UserPermission

def User.fits (u : User) : Bool :=
  fitsColumn 128 u.username && fitsColumn 255 u.passwordHash && u.displayName.all (fitsColumn 255)

def UserPermission.fits (r : UserPermission) : Bool :=
  fitsColumn 128 r.permission && r.resourceType.all (fitsColumn 64) &&
    r.resourceId.all (fitsColumn 128)

/-- The columns of `uq_user_perm`. -/
def UserPermission.grantKey (r : UserPermission) : ℕ × String × Option String × Option String :=
  (r.userId, r.permission, r.resourceType, r.resourceId)

/-- Both columns of the scope are set. -/
def UserPermission.scoped (r : UserPermission) : Bool := r.resourceType.isSome && r.resourceId.isSome

namespace Accounts

/-- All values fit their columns. -/
def Fits (a : Accounts) : Prop := (∀ u ∈ a.users, u.fits) ∧ ∀ r ∈ a.permissions, r.fits

/-- The primary keys, the unique user name, `uq_user_perm`, which never finds two rows with a `NULL`
equal, and the foreign key of the permissions. -/
def Consistent (a : Accounts) : Prop :=
  (UniqueKey User.id a.users ∧ UniqueKey User.username a.users) ∧
    UniqueKey UserPermission.id a.permissions ∧
    UniqueKey UserPermission.grantKey (a.permissions.filter UserPermission.scoped) ∧
    ∀ r ∈ a.permissions, ∃ u ∈ a.users, u.id = r.userId

instance (a : Accounts) : Decidable a.Fits := inferInstanceAs (Decidable (_ ∧ _))

instance (a : Accounts) : Decidable a.Consistent :=
  inferInstanceAs (Decidable ((_ ∧ _) ∧ _ ∧ _ ∧ ∀ r ∈ a.permissions, ∃ u ∈ a.users, u.id = r.userId))

/-- The contents the two tables can have. -/
def Admitted (schema : Schema) (a : Accounts) : Prop :=
  (schema.enforceLengths = true → a.Fits) ∧ a.Consistent

instance (schema : Schema) (a : Accounts) : Decidable (a.Admitted schema) :=
  inferInstanceAs (Decidable ((_ → _) ∧ _))

/-- `db.flush()` or `db.commit()` of the two tables. -/
def commit (schema : Schema) (a : Accounts) : Except PyError Accounts :=
  if schema.enforceLengths = true ∧ ¬ a.Fits then .error .dataError
  else if a.Consistent then .ok a
  else .error .integrityError

/-- A commit succeeds exactly on the contents that the tables can have. -/
theorem commit_eq_ok {schema : Schema} {a a' : Accounts} :
    commit schema a = .ok a' ↔ a' = a ∧ a.Admitted schema := by
  unfold commit Admitted
  by_cases hf : schema.enforceLengths = true ∧ ¬ a.Fits
  · simp only [if_pos hf, reduceCtorEq, false_iff]
    intro h
    exact hf.2 (h.2.1 hf.1)
  · rw [if_neg hf]
    have hfit : schema.enforceLengths = true → a.Fits := by
      intro he
      by_contra hn
      exact hf ⟨he, hn⟩
    by_cases hu : a.Consistent
    · rw [if_pos hu, Except.ok.injEq]
      exact ⟨fun h => ⟨h.symm, hfit, hu⟩, fun h => h.1.symm⟩
    · simp [hu]

end Accounts

/-! ### The check -/

/-- The row grants the user the permission, or all of them. -/
def grants (userId : ℕ) (permission : String) (r : UserPermission) : Bool :=
  r.userId = userId && r.granted && (r.permission = permission || r.permission = "admin:*")

/-- `_has_permission`. -/
def hasPermission (rows : List UserPermission) (userId : ℕ) (permission : String) : Bool :=
  if permission = "" then true else (rows.find? (grants userId permission)).isSome

/-- `require_permission(permission)`, for the user of the request. -/
def requirePermission (a : Accounts) (permission : String) (user : User) : Except PyError User :=
  if user.isActive = false then .error (.app (ForbiddenError "user is inactive"))
  else if hasPermission a.permissions user.id permission then .ok user
  else .error (.app (ForbiddenError "permission denied"))

theorem grants_eq_true {userId : ℕ} {permission : String} {r : UserPermission} :
    grants userId permission r = true ↔ r.userId = userId ∧ r.granted = true ∧
      (r.permission = permission ∨ r.permission = "admin:*") := by
  unfold grants
  simp [and_assoc]

theorem hasPermission_eq_true {rows : List UserPermission} {userId : ℕ} {permission : String} :
    hasPermission rows userId permission = true ↔
      permission = "" ∨ ∃ r ∈ rows, r.userId = userId ∧ r.granted = true ∧
        (r.permission = permission ∨ r.permission = "admin:*") := by
  unfold hasPermission
  split
  · rename_i hempty
    simp [hempty]
  · rename_i hne
    rw [List.find?_isSome, or_iff_right hne]
    simp only [grants_eq_true]

/-- The check passes for the active users with the permission. -/
theorem requirePermission_eq_ok {a : Accounts} {permission : String} {user user' : User} :
    requirePermission a permission user = .ok user' ↔ user' = user ∧ user.isActive = true ∧
      hasPermission a.permissions user.id permission = true := by
  unfold requirePermission
  split
  · rename_i hinactive
    simp [hinactive]
  · rename_i hactive
    rw [Bool.not_eq_false] at hactive
    split
    · rename_i hperm
      simp [hactive, hperm, eq_comm]
    · rename_i hperm
      simp [hperm]

/-- It refuses the others with a `ForbiddenError`. -/
theorem requirePermission_eq_error {a : Accounts} {permission : String} {user : User} {e : PyError}
    (h : requirePermission a permission user = .error e) :
    ∃ message, e = .app (ForbiddenError message) := by
  unfold requirePermission at h
  split at h
  · exact ⟨_, (Except.error.inj h).symm⟩
  · split at h
    · simp at h
    · exact ⟨_, (Except.error.inj h).symm⟩

/-! ### Routes of a device -/

/-- A route with a permission: the check runs before the body, which gets the device. -/
def deviceRoute {α : Type} (a : Accounts) (permission : String) (body : String → Except PyError α)
    (user : User) (deviceId : String) : Except PyError α := do
  let _ ← requirePermission a permission user
  body deviceId

/-- `GET /devices/{device_id}`. -/
def getDeviceRoute (a : Accounts) (db : Store) : User → String → Except PyError Device :=
  deviceRoute a "device:view" (DeviceService.get db)

/-- `PUT /devices/{device_id}`. -/
def updateDeviceRoute (env : Env) (a : Accounts) (db : Store) (nonce : ℕ) (payload : DeviceUpdate) :
    User → String → Except PyError (Store × Device) :=
  deviceRoute a "device:admin" fun deviceId => DeviceService.update env db deviceId nonce payload

/-- The routes with this permission serve the device to the user: they do what their body does. -/
def GrantsAccess (a : Accounts) (user : User) (permission deviceId : String) : Prop :=
  ∀ (α : Type) (body : String → Except PyError α),
    deviceRoute a permission body user deviceId = body deviceId

theorem grantsAccess_iff {a : Accounts} {user : User} {permission deviceId : String} :
    GrantsAccess a user permission deviceId ↔
      user.isActive = true ∧ hasPermission a.permissions user.id permission = true := by
  constructor
  · intro h
    have hbody := bind_eq_ok.1 (h Unit fun _ => .ok ())
    obtain ⟨user', hcheck, -⟩ := hbody
    exact (requirePermission_eq_ok.1 hcheck).2
  · intro h α body
    have hcheck : requirePermission a permission user = .ok user :=
      requirePermission_eq_ok.2 ⟨rfl, h⟩
    unfold deviceRoute
    rw [hcheck]
    rfl

/-- **A route serves all devices or none.**  An active user gets a device from the routes with a
permission exactly if the permission is empty or some granted row of the user has it, or has
`admin:*`, whatever the scope of the row; so the device makes no difference, and one more granted
row, for whatever resource, opens all of them. -/
theorem access_ignores_scope (a : Accounts) (user : User) (permission : String) :
    (∀ deviceId, GrantsAccess a user permission deviceId ↔ user.isActive = true ∧
      (permission = "" ∨ ∃ r ∈ a.permissions, r.userId = user.id ∧ r.granted = true ∧
        (r.permission = permission ∨ r.permission = "admin:*"))) ∧
    (∀ deviceId deviceId', GrantsAccess a user permission deviceId →
      GrantsAccess a user permission deviceId') ∧
    ∀ r deviceId, user.isActive = true → grants user.id permission r = true →
      GrantsAccess { a with permissions := a.permissions ++ [r] } user permission deviceId := by
  refine ⟨fun deviceId => ?_, fun deviceId deviceId' h => ?_, fun r deviceId hactive hr => ?_⟩
  · rw [grantsAccess_iff, hasPermission_eq_true]
  · exact grantsAccess_iff.2 (grantsAccess_iff.1 h)
  · refine grantsAccess_iff.2 ⟨hactive, hasPermission_eq_true.2 (Or.inr ⟨r, ?_, ?_⟩)⟩
    · exact List.mem_append_right _ List.mem_cons_self
    · exact grants_eq_true.1 hr

/-! ### A grant for one device -/

/-- The scope of the row covers the device: it has none, or it names the device. -/
def Covers (r : UserPermission) (deviceId : String) : Prop :=
  (r.resourceType = none ∧ r.resourceId = none) ∨
    (r.resourceType = some "device" ∧ r.resourceId = some deviceId)

instance (r : UserPermission) (deviceId : String) : Decidable (Covers r deviceId) :=
  inferInstanceAs (Decidable (_ ∨ _))

def operator : User :=
  { id := 1, username := "operator", passwordHash := "", displayName := none, isActive := true }

/-- The operator may view one device. -/
def viewOne : UserPermission where
  id := 1
  userId := 1
  permission := "device:view"
  resourceType := some "device"
  resourceId := some "dev_1"
  granted := true

def operatorOnly : Accounts := ⟨[operator], []⟩

/-- **The grant for one device gives access to another**: the operator had no access to it before,
and no row of the operator covers it. -/
theorem scoped_grant_opens_other_device :
    (⟨[operator], [viewOne]⟩ : Accounts).Admitted ormSchema ∧
      ¬ GrantsAccess operatorOnly operator "device:view" "dev_2" ∧
      GrantsAccess ⟨[operator], [viewOne]⟩ operator "device:view" "dev_2" ∧
      ¬ ∃ r ∈ [viewOne], grants operator.id "device:view" r = true ∧ Covers r "dev_2" := by
  rw [grantsAccess_iff, grantsAccess_iff]
  decide

end SmsForwarder
