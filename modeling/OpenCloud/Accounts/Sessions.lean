import Mathlib.Logic.Function.Basic
import OpenCloud.Accounts.Users
import OpenCloud.Lib.Caches
import OpenCloud.Platform.Operators

/-!
# Sessions of the cabinet

A sign-in that the cloud accepts writes the user's row, starts a session and puts the token into the
vault; a project switch exchanges the token of a session for one of another project.  Either stores
the scope of the new token in the session and gives its role to the user's row.

The row belongs to all sessions of a user, and the scope to one of them.
-/

namespace OpenCloud

/-! ### The vault -/

namespace Vault

/-- `DEFAULT_TTL_SECONDS`. -/
def ttlSeconds : ℕ := 3 * 60 * 60

variable (k : Crypto) (cache : Cache String String) (now : Instant) (sessionKey : String)

/-- `vault.store`; `iv` is the vector of the encryption. -/
def store (iv token : String) : Cache String String :=
  cache.set now sessionKey (k.fernetEncrypt iv token) (seconds ttlSeconds)

/-- `vault.get`. -/
def get : Option String :=
  match Cache.get cache now sessionKey with
  | none => none
  | some encrypted => if encrypted = "" then none else k.fernetDecrypt encrypted

/-- `vault.delete`. -/
def delete : Cache String String := Cache.delete cache sessionKey

theorem get_store (iv token : String) (h : 0 < seconds ttlSeconds) :
    get k (store k cache now sessionKey iv token) now sessionKey = some token := by
  have hfound : Cache.get (store k cache now sessionKey iv token) now sessionKey =
      some (k.fernetEncrypt iv token) := by
    simp [Cache.get, store, Cache.set, h]
  rw [get, hfound]
  dsimp only
  rw [if_neg (k.encrypt_ne_empty iv token), k.decrypt_encrypt]

end Vault

/-! ### Users -/

namespace UserTable

/-- The row of an id. -/
def byId (users : UserTable) (userId : String) : Option User :=
  users.rows.find? fun u => u.userId = userId

/-- `save(update_fields=['app_role'])`. -/
def saveRole (users : UserTable) (userId : String) (role : AppRole) : UserTable where
  rows := users.rows.map fun u => if u.userId = userId then { u with appRole := role } else u
  unique := by
    have hid : ∀ u : User, (if u.userId = userId then { u with appRole := role } else u).userId =
      u.userId := by
      intro u
      split_ifs <;> rfl
    rw [List.pairwise_map]
    refine users.unique.imp fun {a b} hab => ?_
    rw [hid, hid]
    exact hab

/-- The application role of a user. -/
def roleOf (users : UserTable) (userId : String) : Option AppRole :=
  (users.byId userId).map User.appRole

end UserTable

/-! ### Sessions -/

/-- `AuthResult`, the whole of it: the identity, its token and what the token is scoped to. -/
structure ScopedResult extends AuthResult where
  token : String
  scope : String
  projectId : Option String
  projectName : Option String

/-- The user of a session, and the scope stored in it. -/
structure CabinetSession where
  userId : String
  projectId : Option String
  projectName : Option String
  scope : String
  roles : List String
  deriving DecidableEq

/-- The session part of `apply_scope_to_session`. -/
def CabinetSession.applyScope (session : CabinetSession) (result : ScopedResult) : CabinetSession :=
  { session with
    projectId := result.projectId
    projectName := result.projectName
    scope := result.scope
    roles := result.roles }

/-- The row part of `apply_scope_to_session`; `user` is `request.user`, as it was read. -/
def syncRole (c : Casing) (users : UserTable) (user : User) (result : ScopedResult) : UserTable :=
  let newRole := resolveAppRole c result.roles
  if user.appRole ≠ newRole then users.saveRole user.userId newRole else users

/-- What the cabinet's sign-in reads and writes. -/
structure Cabinet where
  users : UserTable
  /-- The ids whose row has the status `blocked`. -/
  blocked : List String
  /-- The session table, by session key. -/
  sessions : String → Option CabinetSession
  vault : Cache String String
  now : Instant

namespace Cabinet

variable (cab : Cabinet)

/-- `apply_scope_to_session`, in the session with the key. -/
def applyScope (c : Casing) (key : String) (user : User) (session : CabinetSession)
    (result : ScopedResult) :
    Cabinet :=
  { cab with
    users := syncRole c cab.users user result
    sessions := Function.update cab.sessions key (some (session.applyScope result)) }

@[simp] theorem sessions_applyScope (c : Casing) (key : String) (user : User)
    (session : CabinetSession) (result : ScopedResult) :
    (cab.applyScope c key user session result).sessions =
      Function.update cab.sessions key (some (session.applyScope result)) := rfl

/-- `IsAdmin.has_permission` for a request of the session. -/
def isAdmin (key : String) : Bool :=
  match cab.sessions key with
  | none => false
  | some session => cab.users.roleOf session.userId = some .admin

/-- `django.contrib.auth.login`: the key of the session and the session table.  A session of the
same user goes on, one of another user is flushed; `fresh` is the key of a new session.

A flushed session has no key until the response is saved, so that the code then stores the token
under the text `None`, which no request reads; here it is stored under the key that the session will
have. -/
def login (cookie fresh userId : String) : String × CabinetSession × Cabinet :=
  let empty : CabinetSession := ⟨userId, none, none, "", []⟩
  match cab.sessions cookie with
  | some session =>
    if session.userId = userId then (cookie, session, cab)
    else (fresh, empty, { cab with sessions := Function.update cab.sessions cookie none })
  | none => (fresh, empty, cab)

end Cabinet

/-! ### Requests -/

/-- What the cloud answers while a user signs in. -/
structure SignInCloud where
  /-- `authenticate`, or `authenticate_totp` under a ticket. -/
  accepted : Except ZadaraError ScopedResult
  /-- `get_user_projects(account, username)`: ids and names. -/
  userProjects : Except ZadaraError (List (String × String))
  /-- `exchange_project(token, project, account)`. -/
  exchange : String → String → String → Except ZadaraError ScopedResult

/-- The result `LoginView.post` signs in with. -/
def SignInCloud.result (cloud : SignInCloud) (account project : String) :
    Except ZadaraError ScopedResult :=
  match cloud.accepted with
  | .error err => .error err
  | .ok result =>
    if result.scope ≠ "project" ∧ strip project = "" then
      match cloud.userProjects with
      | .ok ((_, name) :: _) =>
        match cloud.exchange result.token name account with
        | .ok result => .ok result
        | .error _ => .ok result
      | .ok [] => .ok result
      | .error _ => .ok result
    else .ok result

/-- `_STATUS_BY_CODE`. -/
def statusByCode : Dict String ℕ :=
  [("invalid_credentials", 401), ("mfa_required", 401), ("invalid_mfa_code", 401),
    ("mfa_enrollment_required", 401), ("weak_password", 400), ("password_reused", 400),
    ("password_expired", 401), ("account_locked", 403), ("invalid_reset_link", 400),
      ("mfa_expired", 401),
    ("account_not_found", 404), ("forbidden", 403), ("rate_limited", 429), ("timeout", 504),
    ("network_error", 502), ("upstream_error", 502)]

/-- `_raise_from_zadara`. -/
def raiseFromZadara (err : ZadaraError) : AppError :=
  ⟨err.message, err.code, (statusByCode.get? err.code).getD 502⟩

/-- `me_payload`. -/
structure CabinetMe where
  name : String
  email : Option String
  appRole : AppRole
  zadaraUserId : String
  zadaraAccount : String
  zadaraAccountId : Option String
  zadaraProjectId : Option String
  zadaraProjectName : Option String
  zadaraRoles : List String

def cabinetMe (user : User) (session : CabinetSession) : CabinetMe :=
  ⟨user.username, user.email, user.appRole, user.userId, user.account,
    if user.accountId = "" then none else some user.accountId, session.projectId,
      session.projectName,
    session.roles⟩

/-- `LoginView.post`, from the moment the cloud has answered; the key of a new session is drawn. -/
def cabinetLoginPost (k : Crypto) (c : Casing) (cab : Cabinet)
    (cookie fresh account project iv : String) (cloud : SignInCloud) :
    Except AppError CabinetMe × Cabinet :=
  match cloud.result (strip account) project with
  | .error err => (.error (raiseFromZadara err), cab)
  | .ok result =>
    let cab := { cab with users := upsertUser c cab.users result.toAuthResult }
    if result.userId ∈ cab.blocked then (.error ⟨"This account is blocked.", "forbidden", 403⟩, cab)
    else
      let user := result.toAuthResult.user c
      let (key, session, cab) := cab.login cookie fresh result.userId
      let cab := cab.applyScope c key user session result
      (.ok (cabinetMe user (session.applyScope result)),
        { cab with vault := Vault.store k cab.vault cab.now key iv result.token })

/-- `_require_token` finds no token. -/
def sessionExpired : AppError := ⟨"Session expired, please sign in again.", "session_expired", 401⟩

/-- `ProjectSwitchView.post` up to the exchange: the session, its user and the vaulted token. -/
def switchAsk (k : Crypto) (cab : Cabinet) (key project : String) :
    Except AppError (CabinetSession × User × String) :=
  match cab.sessions key with
  | none => .error ⟨"Authentication credentials were not provided.", "forbidden", 403⟩
  | some session =>
    match cab.users.byId session.userId with
    | none => .error ⟨"Authentication credentials were not provided.", "forbidden", 403⟩
    | some user =>
      if strip project = "" then .error ⟨"project is required", "validation_error", 400⟩
      else match Vault.get k cab.vault cab.now key with
        | none => .error sessionExpired
        | some token => .ok (session, user, token)

/-- What a refused exchange is answered. -/
def switchRefused (err : ZadaraError) : AppError :=
  ⟨err.message, err.code, if err.code = "forbidden" then 403 else 502⟩

/-- The session of a switch, its user and the exchanged token; `exchange` is
`exchange_project(token, project, account)`. -/
def switchResult (k : Crypto) (cab : Cabinet) (key project : String)
    (exchange : String → String → String → Except ZadaraError ScopedResult) :
    Except AppError (CabinetSession × User × ScopedResult) :=
  match switchAsk k cab key project with
  | .error err => .error err
  | .ok (session, user, token) =>
    match exchange token (strip project) user.account with
    | .error err => .error (switchRefused err)
    | .ok result => .ok (session, user, result)

/-- `ProjectSwitchView.post`. -/
def switchPost (k : Crypto) (c : Casing) (cab : Cabinet) (key project iv : String)
    (exchange : String → String → String → Except ZadaraError ScopedResult) :
    Except AppError CabinetMe × Cabinet :=
  match switchResult k cab key project exchange with
  | .error err => (.error err, cab)
  | .ok (session, user, result) =>
    let cab := { cab with vault := Vault.store k cab.vault cab.now key iv result.token }
    (.ok (cabinetMe { user with appRole := resolveAppRole c result.roles }
      (session.applyScope result)), cab.applyScope c key user session result)

/-! ### What the requests write -/

section

variable {c : Casing} {users : UserTable} {result : AuthResult} {userId id : String}
  {role : AppRole}

namespace UserTable

theorem byId_upsertUser :
    (upsertUser c users result).byId result.userId = some (result.user c) := by
  have hfound : (upsertUser c users result).byId result.userId =
      some (((users.byId result.userId).map fun _ => result.user c).getD (result.user c)) :=
    Table.find?_upsert (p := SameId result.userId) rfl fun _ _ => rfl
  rw [hfound]
  cases users.byId result.userId <;> rfl

theorem roleOf_upsertUser : (upsertUser c users result).roleOf id =
    if result.userId = id then some (resolveAppRole c result.roles) else users.roleOf id := by
  by_cases hid : result.userId = id
  · subst hid
    rw [if_pos rfl, roleOf, byId_upsertUser]
    rfl
  · have hother : (upsertUser c users result).byId id = users.byId id := by
      rw [byId, byId, ← List.head?_filter, ← List.head?_filter]
      refine congrArg List.head? (Table.filter_upsert (decide_eq_false hid) fun u hu => ?_)
      have hne : u.userId ≠ id := fun h => hid (Eq.trans (Eq.symm hu) h)
      exact ⟨decide_eq_false hne, decide_eq_false hid⟩
    rw [if_neg hid, roleOf, roleOf, hother]

theorem roleOf_saveRole (h : users.byId userId ≠ none) : (users.saveRole userId role).roleOf id =
    if userId = id then some role else users.roleOf id := by
  have hfound : (users.saveRole userId role).byId id = (users.byId id).map fun u =>
      if u.userId = userId then { u with appRole := role } else u := by
    rw [byId, saveRole, List.find?_map]
    congr 2
    funext u
    show decide ((if u.userId = userId then _ else u).userId = id) = decide (u.userId = id)
    split_ifs <;> rfl
  rw [roleOf, hfound, Option.map_map]
  by_cases hid : userId = id
  · subst hid
    obtain ⟨user, huser⟩ := Option.ne_none_iff_exists'.1 h
    have hsame : user.userId = userId := by simpa using List.find?_some huser
    rw [if_pos rfl, huser, Option.map_some, Function.comp_apply, if_pos hsame]
  · rw [if_neg hid, roleOf]
    cases huser : users.byId id with
    | none => rfl
    | some user =>
      have hother : user.userId ≠ userId := by
        have hsame : user.userId = id := by simpa using List.find?_some huser
        exact fun h => hid (h.symm.trans hsame)
      rw [Option.map_some, Option.map_some, Function.comp_apply, if_neg hother]

theorem roleOf_syncRole {user : User} {result : ScopedResult}
    (h : users.byId user.userId = some user) :
    (syncRole c users user result).roleOf id =
      if user.userId = id then some (resolveAppRole c result.roles) else users.roleOf id := by
  unfold syncRole
  dsimp only
  by_cases hrole : user.appRole = resolveAppRole c result.roles
  · -- the row has the role already
    rw [if_neg (not_not.2 hrole)]
    split_ifs with hid
    · rw [← hid, roleOf, h, Option.map_some, hrole]
    · rfl
  · rw [if_pos hrole, roleOf_saveRole (by rw [h]; exact Option.some_ne_none _)]

end UserTable

/-- The user of a switch is the session's. -/
theorem byId_of_switchAsk {k : Crypto} {cab : Cabinet} {key project token : String}
    {session : CabinetSession} {user : User}
    (h : switchAsk k cab key project = .ok (session, user, token)) :
    cab.sessions key = some session ∧ user.userId = session.userId ∧
      cab.users.byId user.userId = some user := by
  unfold switchAsk at h
  cases hsession : cab.sessions key with
  | none => simp [hsession] at h
  | some session' =>
    rw [hsession] at h
    dsimp only at h
    cases huser : cab.users.byId session'.userId with
    | none => simp [huser] at h
    | some user' =>
      rw [huser] at h
      dsimp only at h
      split_ifs at h
      split at h
      · cases h
      · obtain ⟨rfl, hrest⟩ := Prod.mk.inj (Except.ok.inj h)
        obtain ⟨rfl, -⟩ := Prod.mk.inj hrest
        have hid : user'.userId = session'.userId := by simpa using List.find?_some huser
        exact ⟨rfl, hid, hid ▸ huser⟩

end

end OpenCloud
