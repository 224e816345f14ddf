/-
**The tokens that are accepted.**

The database keeps hashes and flags, and says nothing of the calls that led to them.  Along a run a
token is live from the call that returned it to the next rotation of its device: the lookup accepts
the live tokens and no others, and answers with a row of the device the token was returned for.

Main definitions:

* `SmsForwarder.issuedBy`, `SmsForwarder.rotatedBy` — the token a call returned, and the device it
  rotated;
* `SmsForwarder.LiveToken`, `SmsForwarder.RevokedToken` — tokens by the calls of a run;
* `SmsForwarder.credentials` — the columns of the webhook rows that a lookup reads;
* `SmsForwarder.TokensSound` — what is claimed of every state.

Main results:

* `SmsForwarder.credentials_exec` — all that a call does to these columns;
* `SmsForwarder.accepts_iff_live` — the rows accept a token for a device exactly when it is live;
* `SmsForwarder.tokensSound_final` — **the lookup accepts the live tokens, in every state of every
  run.**
-/

import SmsForwarder.WebhookRuns

set_option relaxedAutoImplicit false
set_option autoImplicit false

namespace SmsForwarder

open Tables Runs WebhookService

/-! ### Tokens by the calls of a run -/

/-- The device and the token of a call that returned a token. -/
def issuedBy (c : WebhookCall) : Option (String × String) :=
  match c.op, c.answer with
  | .create deviceId _, .ok (.issued token) => some (deviceId, token.webhookToken)
  | .rotate deviceId _, .ok (.issued token) => some (deviceId, token.webhookToken)
  | _, _ => none

/-- The device of a rotation that succeeded. -/
def rotatedBy (c : WebhookCall) : Option String :=
  match c.op, c.answer with
  | .rotate deviceId _, .ok _ => some deviceId
  | _, _ => none

/-- The token was returned for the device, and the device was not rotated since. -/
def LiveToken (tr : List WebhookCall) (deviceId token : String) : Prop :=
  Since (fun c => issuedBy c = some (deviceId, token)) (fun c => rotatedBy c ≠ some deviceId) tr

/-- The token was returned for the device, which was rotated later. -/
def RevokedToken (tr : List WebhookCall) (deviceId token : String) : Prop :=
  ∃ pre c post, tr = pre ++ c :: post ∧ rotatedBy c = some deviceId ∧
    ∃ c' ∈ pre, issuedBy c' = some (deviceId, token)

/-- What holds of the lookups in every state of a run. -/
structure TokensSound (env : Env) (db : Store) (tr : List WebhookCall) : Prop where
  accepted : ∀ deviceId token, LiveToken tr deviceId token →
    ∃ w ∈ db.deviceWebhooks, w.deviceId = deviceId ∧ w.webhookTokenHash = hashToken env token ∧
      lookup env db token = .ok w
  rejected : ∀ token, (∀ deviceId, ¬ LiveToken tr deviceId token) →
    lookup env db token = .error (.app (UnauthorizedError "invalid webhook token"))
  revoked : ∀ deviceId token, RevokedToken tr deviceId token →
    lookup env db token = .error (.app (UnauthorizedError "invalid webhook token"))
  othersKept : ∀ c ∈ tr, ∀ deviceId, rotatedBy c = some deviceId → ∀ token w,
    w.deviceId ≠ deviceId → (lookup env c.before token = .ok w ↔ lookup env c.after token = .ok w)

/-! ### The columns of a lookup -/

/-- The columns of a webhook row that a lookup reads. -/
structure Credential where
  deviceId : String
  tokenHash : String
  enabled : Bool

def DeviceWebhook.credential (w : DeviceWebhook) : Credential :=
  ⟨w.deviceId, w.webhookTokenHash, w.enabled⟩

def credentials (db : Store) : List Credential := db.deviceWebhooks.map DeviceWebhook.credential

/-- The columns after a rotation of the device, if there was one. -/
def Credential.revoke (rotated : Option String) (x : Credential) : Credential :=
  { x with enabled := x.enabled && rotated ≠ some x.deviceId }

section

variable {env : Env} {db : Store}

@[simp] theorem map_revoke_none (xs : List Credential) : xs.map (Credential.revoke none) = xs := by
  have hid : Credential.revoke none = id := by
    funext x
    simp [Credential.revoke]
  rw [hid, List.map_id]

/-- A new row accepts the token that was returned. -/
theorem credential_newWebhook (env : Env) (deviceId secret : String) (id : ℕ) :
    ({ newWebhook env deviceId secret with id } : DeviceWebhook).credential =
      ⟨deviceId, hashToken env (issuedToken env secret).webhookToken, true⟩ := rfl

/-- A posting changes none of these columns. -/
theorem credentials_writeWebhook {webhook : DeviceWebhook} {now : Timestamp}
    (hu : UniqueKey DeviceWebhook.id db.deviceWebhooks) (hw : webhook ∈ db.deviceWebhooks) :
    credentials (db.writeWebhook webhook (calledWebhook now webhook)) = credentials db := by
  refine map_updateKey fun w hw' hk => ?_
  obtain rfl := hu.eq hw' hw hk
  rw [DeviceWebhook.merge_self (by rfl)]
  rfl

/-- Creating a webhook adds the row of its token. -/
theorem credentials_create {deviceId secret : String} {r : Store × IssuedToken}
    (h : create env db deviceId secret = .ok r) :
    credentials r.1 =
      credentials db ++ [⟨deviceId, hashToken env r.2.webhookToken, true⟩] := by
  obtain ⟨-, hdb, -, htoken⟩ := create_eq_ok h
  rw [hdb, htoken]
  simp [credentials, Store.insertWebhook, credential_newWebhook]

/-- A rotation disables the rows of the device and adds the row of its token. -/
theorem credentials_rotate {deviceId secret : String} {r : Store × IssuedToken}
    (hu : UniqueKey DeviceWebhook.id db.deviceWebhooks)
    (h : rotate env db deviceId secret = .ok r) :
    credentials r.1 = (credentials db).map (Credential.revoke (some deviceId)) ++
      [⟨deviceId, hashToken env r.2.webhookToken, true⟩] := by
  obtain ⟨-, hdb, -, htoken⟩ := rotate_eq_ok hu h
  have hrotated : ∀ w : DeviceWebhook, (rotatedWebhook deviceId w).credential =
      w.credential.revoke (some deviceId) := by
    intro w
    simp [rotatedWebhook, DeviceWebhook.credential, Credential.revoke, eq_comm]
  rw [hdb, htoken]
  simp [credentials, Store.insertWebhook, credential_newWebhook, hrotated]

/-- A posting leaves these columns alone, whatever else it writes. -/
theorem credentials_ingest {webhook : DeviceWebhook} {posting : IngestCall}
    {r : Store × IngestResult} (hadm : db.Admitted env.schema) (hw : webhook ∈ db.deviceWebhooks)
    (h : ingest env db webhook posting = .ok r) : credentials r.1 = credentials db := by
  have hu : UniqueKey DeviceWebhook.id db.deviceWebhooks := hadm.2.2.2.1.1
  obtain ⟨fields, event, -, -, -, -, device, -, -, hdb, -⟩ := ingest_eq_ok hadm hw h
  have hrows : ((if r.2.duplicate then db else db.insertEvent event).writeDevice device
      (calledDevice r.2.duplicate posting.now device)).deviceWebhooks =
        db.deviceWebhooks := workingStore_webhooks r.2.duplicate event
  rw [hdb, credentials_writeWebhook (by rw [hrows]; exact hu) (by rw [hrows]; exact hw)]
  unfold credentials
  rw [hrows]

/-- **All that a call does to these columns**: a rotation disables the rows of its device, and a
token that is returned gets an enabled row. -/
theorem credentials_exec (op : WebhookOp) (hadm : db.Admitted env.schema) :
    let c := call (WebhookOp.exec env) db op
    c.after.Admitted env.schema ∧
      credentials c.after = (credentials db).map (Credential.revoke (rotatedBy c)) ++
        (issuedBy c).toList.map fun p => ⟨p.1, hashToken env p.2, true⟩ := by
  intro c
  have hu : UniqueKey DeviceWebhook.id db.deviceWebhooks := hadm.2.2.2.1.1
  rcases WebhookOp.call_cases env db op with ⟨db', answer, hr, hcall⟩ | ⟨e, hr, hcall⟩
  · have hc : c = ⟨db, op, .ok answer, db'⟩ := hcall
    rw [hc]
    cases op with
    | register uuid nonce payload =>
        obtain ⟨r, hok, hrd⟩ := map_eq_ok.1 hr
        cases hrd
        obtain ⟨hdb, hadm'⟩ := DeviceService.create_eq_ok hok
        refine ⟨hadm', ?_⟩
        have hkept : credentials r.1 = credentials db := by
          rw [hdb]
          rfl
        simp [rotatedBy, issuedBy, hkept]
    | create deviceId secret =>
        obtain ⟨r, hok, hrd⟩ := map_eq_ok.1 hr
        cases hrd
        obtain ⟨-, -, hadm', -⟩ := create_eq_ok hok
        refine ⟨hadm', ?_⟩
        simp [rotatedBy, issuedBy, credentials_create hok]
    | rotate deviceId secret =>
        obtain ⟨r, hok, hrd⟩ := map_eq_ok.1 hr
        cases hrd
        obtain ⟨-, -, hadm', -⟩ := rotate_eq_ok hu hok
        refine ⟨hadm', ?_⟩
        simp [rotatedBy, issuedBy, credentials_rotate hu hok]
    | ingest webhookId posting =>
        obtain ⟨webhook, hload, hr⟩ := bind_eq_ok.1 hr
        obtain ⟨r, hok, hr⟩ := bind_eq_ok.1 hr
        cases hr
        have hw := ((loadWebhook_eq_ok hu).1 hload).1
        obtain ⟨fields, event, -, -, -, -, device, -, -, -, hadm'⟩ := ingest_eq_ok hadm hw hok
        refine ⟨hadm', ?_⟩
        simp [rotatedBy, issuedBy, credentials_ingest hadm hw hok]
  · -- a failed call returns no token and leaves the store alone
    have hc : c = ⟨db, op, .error e, db⟩ := hcall
    rw [hc]
    refine ⟨hadm, ?_⟩
    have hnone : rotatedBy ⟨db, op, .error e, db⟩ = none ∧
        issuedBy ⟨db, op, .error e, db⟩ = none := by
      cases op <;> exact ⟨rfl, rfl⟩
    simp [hnone]

/-- A rotation leaves the rows of the other devices alone. -/
theorem mem_webhooks_of_rotated {op : WebhookOp} {deviceId : String} {w : DeviceWebhook}
    (hadm : db.Admitted env.schema)
    (hrot : rotatedBy (call (WebhookOp.exec env) db op) = some deviceId)
    (hne : w.deviceId ≠ deviceId) :
    w ∈ (call (WebhookOp.exec env) db op).after.deviceWebhooks ↔ w ∈ db.deviceWebhooks := by
  cases op with
  | register | create | ingest => simp [rotatedBy] at hrot
  | rotate id secret =>
      rcases WebhookOp.call_cases env db (.rotate id secret) with
        ⟨db', answer, hr, hcall⟩ | ⟨e, -, hcall⟩
      · rw [hcall] at hrot ⊢
        obtain rfl : id = deviceId := by simpa [rotatedBy] using hrot
        obtain ⟨r, hok, hrd⟩ := map_eq_ok.1 hr
        cases hrd
        obtain ⟨-, hdb, -, -⟩ := rotate_eq_ok hadm.2.2.2.1.1 hok
        have hkept : ∀ w' : DeviceWebhook, w'.deviceId ≠ id → rotatedWebhook id w' = w' := by
          intro w' hw'
          simp [rotatedWebhook, hw']
        rw [hdb]
        simp only [Store.insertWebhook, List.mem_append, List.mem_map, List.mem_singleton]
        constructor
        · rintro (⟨w', hw', rfl⟩ | rfl)
          · rw [hkept w' hne]
            exact hw'
          · exact absurd rfl hne
        · intro hw
          exact Or.inl ⟨w, hw, hkept w hne⟩
      · rw [hcall] at hrot
        simp [rotatedBy] at hrot

/-! ### Accepted tokens -/

/-- An enabled row of the device has the hash of the token. -/
def Accepts (env : Env) (db : Store) (deviceId token : String) : Prop :=
  (⟨deviceId, hashToken env token, true⟩ : Credential) ∈ credentials db

/-- A disabled row of the device has the hash of the token. -/
def Refuses (env : Env) (db : Store) (deviceId token : String) : Prop :=
  (⟨deviceId, hashToken env token, false⟩ : Credential) ∈ credentials db

theorem mem_credentials {deviceId tokenHash : String} {enabled : Bool} :
    (⟨deviceId, tokenHash, enabled⟩ : Credential) ∈ credentials db ↔
      ∃ w ∈ db.deviceWebhooks, w.deviceId = deviceId ∧ w.webhookTokenHash = tokenHash ∧
        w.enabled = enabled := by
  simp [credentials, DeviceWebhook.credential]

/-- A row is enabled by the call that returned its token, and stays so but for a rotation. -/
theorem accepts_exec_iff (hinj : Function.Injective env.sha256Hex) (op : WebhookOp)
    (hadm : db.Admitted env.schema) (deviceId token : String) :
    let c := call (WebhookOp.exec env) db op
    Accepts env c.after deviceId token ↔ issuedBy c = some (deviceId, token) ∨
      (Accepts env db deviceId token ∧ rotatedBy c ≠ some deviceId) := by
  intro c
  obtain ⟨-, hrows⟩ := credentials_exec op hadm
  have hold : (⟨deviceId, hashToken env token, true⟩ : Credential) ∈
      (credentials db).map (Credential.revoke (rotatedBy c)) ↔
        Accepts env db deviceId token ∧ rotatedBy c ≠ some deviceId := by
    rw [List.mem_map]
    constructor
    · rintro ⟨x, hx, heq⟩
      simp only [Credential.revoke, Credential.mk.injEq, Bool.and_eq_true,
        decide_eq_true_eq] at heq
      obtain ⟨hid, hhash, hen, hne⟩ := heq
      obtain ⟨_, _, _⟩ := x
      simp only at hid hhash hen
      subst hid hhash hen
      exact ⟨hx, hne⟩
    · rintro ⟨hx, hne⟩
      exact ⟨_, hx, by simp [Credential.revoke, hne]⟩
  have hnew : (⟨deviceId, hashToken env token, true⟩ : Credential) ∈
      (issuedBy c).toList.map (fun p => ⟨p.1, hashToken env p.2, true⟩) ↔
        issuedBy c = some (deviceId, token) := by
    rw [List.mem_map]
    constructor
    · rintro ⟨⟨d, t⟩, hp, heq⟩
      simp only [Credential.mk.injEq, and_true] at heq
      obtain ⟨rfl, hhash⟩ := heq
      rw [hinj hhash] at hp
      simpa using hp
    · intro h
      exact ⟨(deviceId, token), by simp [h], rfl⟩
  show _ ∈ credentials c.after ↔ _
  rw [hrows, List.mem_append, hold, hnew, or_comm]

/-- Rows are never removed or moved to another device, and a disabled row stays disabled. -/
theorem refuses_exec {op : WebhookOp} (hadm : db.Admitted env.schema) {deviceId token : String} :
    let c := call (WebhookOp.exec env) db op
    (Refuses env db deviceId token ∨
        (Accepts env db deviceId token ∧ rotatedBy c = some deviceId)) →
      Refuses env c.after deviceId token := by
  intro c h
  obtain ⟨-, hrows⟩ := credentials_exec op hadm
  show _ ∈ credentials c.after
  rw [hrows]
  refine List.mem_append_left _ (List.mem_map.2 ?_)
  rcases h with h | ⟨h, hrot⟩
  · exact ⟨_, h, by simp [Credential.revoke]⟩
  · exact ⟨_, h, by rw [hrot]; simp [Credential.revoke]⟩

theorem admitted_final (env : Env) (ops : List WebhookOp) :
    (final (WebhookOp.exec env) Store.empty ops).Admitted env.schema :=
  run_induction (WebhookOp.exec env) (P := fun db _ => db.Admitted env.schema)
    (Store.admitted_empty env.schema) (fun _ _ op h => (credentials_exec op h).1) ops

/-- **A token is accepted for a device exactly when it is live.** -/
theorem accepts_iff_live (hinj : Function.Injective env.sha256Hex) (ops : List WebhookOp)
    (deviceId token : String) :
    Accepts env (final (WebhookOp.exec env) Store.empty ops) deviceId token ↔
      LiveToken (trace (WebhookOp.exec env) Store.empty ops) deviceId token :=
  iff_since (WebhookOp.exec env) (I := fun db _ => db.Admitted env.schema)
    (P := fun db => Accepts env db deviceId token)
    (p := fun c => issuedBy c = some (deviceId, token))
    (q := fun c => rotatedBy c ≠ some deviceId) (admitted_final env)
    (by simp [Accepts, credentials, Store.empty])
    (fun _ _ op hadm => accepts_exec_iff hinj op hadm deviceId token) ops

/-- A token that was returned keeps a row, which a rotation disables for good. -/
theorem refuses_of_revoked (hinj : Function.Injective env.sha256Hex) (ops : List WebhookOp) :
    let db := final (WebhookOp.exec env) Store.empty ops
    let tr := trace (WebhookOp.exec env) Store.empty ops
    ∀ deviceId token, RevokedToken tr deviceId token → Refuses env db deviceId token := by
  have hI := run_induction (WebhookOp.exec env)
    (P := fun db tr => db.Admitted env.schema ∧ ∀ deviceId token,
      ((∃ c ∈ tr, issuedBy c = some (deviceId, token)) →
        Accepts env db deviceId token ∨ Refuses env db deviceId token) ∧
      (RevokedToken tr deviceId token → Refuses env db deviceId token))
    ⟨Store.admitted_empty env.schema, fun _ _ => ⟨by simp, by simp [RevokedToken]⟩⟩
    (by
      intro db tr op hI
      obtain ⟨hadm, htokens⟩ := hI
      refine ⟨(credentials_exec op hadm).1, fun deviceId token => ⟨?_, ?_⟩⟩
      · rintro ⟨c, hc, hissued⟩
        rcases List.mem_append.1 hc with hc | hc
        · rcases (htokens deviceId token).1 ⟨c, hc, hissued⟩ with hacc | href
          · by_cases hrot : rotatedBy (call (WebhookOp.exec env) db op) = some deviceId
            · exact Or.inr (refuses_exec hadm (Or.inr ⟨hacc, hrot⟩))
            · exact Or.inl ((accepts_exec_iff hinj op hadm _ _).2 (Or.inr ⟨hacc, hrot⟩))
          · exact Or.inr (refuses_exec hadm (Or.inl href))
        · rw [List.mem_singleton] at hc
          subst hc
          exact Or.inl ((accepts_exec_iff hinj op hadm _ _).2 (Or.inl hissued))
      · rintro ⟨pre, c, post, htr, hrot, hissued⟩
        rcases List.eq_nil_or_concat' post with rfl | ⟨post, last, rfl⟩
        · obtain ⟨rfl, hc⟩ := List.append_inj' htr rfl
          obtain rfl : call (WebhookOp.exec env) db op = c := by simpa using hc
          rcases (htokens deviceId token).1 hissued with hacc | href
          · exact refuses_exec hadm (Or.inr ⟨hacc, hrot⟩)
          · exact refuses_exec hadm (Or.inl href)
        · have hsplit : tr ++ [call (WebhookOp.exec env) db op] =
              (pre ++ c :: post) ++ [last] := by simpa using htr
          obtain ⟨rfl, -⟩ := List.append_inj' hsplit rfl
          exact refuses_exec hadm
            (Or.inl ((htokens deviceId token).2 ⟨pre, c, post, rfl, hrot, hissued⟩))) ops
  intro db tr deviceId token
  exact (hI.2 deviceId token).2

end

/-- **The lookup accepts exactly the live tokens**, with a row of the device they were returned
for, in every state of every run: a revoked token is refused for good, and the rotation of one
device changes no lookup of another one's tokens. -/
theorem tokensSound_final (env : Env) (hinj : Function.Injective env.sha256Hex)
    (ops : List WebhookOp) :
    TokensSound env (final (WebhookOp.exec env) Store.empty ops)
      (trace (WebhookOp.exec env) Store.empty ops) := by
  have hadm := admitted_final env ops
  have hu := hadm.2.2.2.1.2
  refine ⟨fun deviceId token hlive => ?_, fun token hdead => ?_, fun deviceId token hrev => ?_,
    fun c hc deviceId hrot token w hne => ?_⟩
  · obtain ⟨w, hw, hid, hhash, hen⟩ :=
      mem_credentials.1 ((accepts_iff_live hinj ops deviceId token).2 hlive)
    exact ⟨w, hw, hid, hhash, (lookup_eq_ok hu).2 ⟨hw, hhash, hen⟩⟩
  · rcases lookup_eq hu with ⟨w, hw, hhash, hen, -⟩ | ⟨-, herr⟩
    · refine absurd ((accepts_iff_live hinj ops w.deviceId token).1 ?_) (hdead w.deviceId)
      exact mem_credentials.2 ⟨w, hw, rfl, hhash, hen⟩
    · exact herr
  · obtain ⟨w, hw, hid, hhash, hoff⟩ :=
      mem_credentials.1 (refuses_of_revoked hinj ops deviceId token hrev)
    rcases lookup_eq hu with ⟨w', hw', hhash', hen, -⟩ | ⟨-, herr⟩
    · obtain rfl := hu.eq hw hw' (hhash.trans hhash'.symm)
      rw [hoff] at hen
      simp at hen
    · exact herr
  · obtain ⟨pre, op, -, rfl⟩ := (mem_trace_iff _).1 hc
    have hadm := admitted_final env pre
    have hadm' := (credentials_exec op hadm).1
    rw [call_before, lookup_eq_ok hadm.2.2.2.1.2, lookup_eq_ok hadm'.2.2.2.1.2,
      mem_webhooks_of_rotated hadm hrot hne]

/-- The digests of two tokens, and values that are no digests for all others. -/
def sampleSha256Hex (text : String) : String :=
  if text = "wh_a" then "a465402c06ac79512797a9020ccef05453606dcae0576685d39573cbb31890e1"
  else if text = "wh_b" then "d66ee8b731a633c806a5c9322a2f81e87dde0342e876a5e52b8c72846cd85dbb"
  else "no digest of " ++ text

theorem sampleSha256Hex_injective : Function.Injective sampleSha256Hex := by
  intro text text' h
  have hdigest : ∀ text : String,
      "no digest of " ++ text ≠
          "a465402c06ac79512797a9020ccef05453606dcae0576685d39573cbb31890e1" ∧
        "no digest of " ++ text ≠
          "d66ee8b731a633c806a5c9322a2f81e87dde0342e876a5e52b8c72846cd85dbb" := by
    intro text
    constructor <;>
    · intro heq
      have := congrArg String.toList heq
      simp at this
  unfold sampleSha256Hex at h
  split_ifs at h with ha ha' hb' hb ha' hb' ha' hb'
  · rw [ha, ha']
  · simp at h
  · exact absurd h.symm (hdigest text').1
  · simp at h
  · rw [hb, hb']
  · exact absurd h.symm (hdigest text').2
  · exact absurd h (hdigest text).1
  · exact absurd h (hdigest text).2
  · simpa using h

/-- A device whose webhook was issued and then rotated. -/
theorem issued_and_rotated_tokensSound :
    TokensSound { plainEnv ormSchema with sha256Hex := sampleSha256Hex }
      (final (WebhookOp.exec { plainEnv ormSchema with sha256Hex := sampleSha256Hex }) Store.empty
        [.register Uuid.nil 0 {}, .create (generateDeviceId Uuid.nil) "a",
          .rotate (generateDeviceId Uuid.nil) "b"])
      (trace (WebhookOp.exec { plainEnv ormSchema with sha256Hex := sampleSha256Hex }) Store.empty
        [.register Uuid.nil 0 {}, .create (generateDeviceId Uuid.nil) "a",
          .rotate (generateDeviceId Uuid.nil) "b"]) :=
  tokensSound_final _ sampleSha256Hex_injective _

end SmsForwarder
