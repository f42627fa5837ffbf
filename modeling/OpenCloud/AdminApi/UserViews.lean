import OpenCloud.Networking.Views

/-!
# The user administration of an account

An administrator creates, edits and removes users of their own account with their own token, so that
the cloud judges the request by their rights.  A user id outside the account is refused before the
cloud is asked.
-/

namespace OpenCloud

/-- `User.objects.filter(zadara_user_id=…).delete()`. -/
def UserTable.remove (users : UserTable) (userId : String) : UserTable where
  rows := users.rows.filter fun u => u.userId ≠ userId
  unique := users.unique.filter _

/-- `_WRITE_STATUS` of the user endpoints. -/
def userWriteStatus : Dict String ℕ :=
  [("forbidden", 403), ("not_found", 404), ("conflict", 409), ("invalid_request", 400)]

/-- The answer of `_write_failed`. -/
def userWriteFailed (err : ZadaraError) : AppError :=
  ⟨err.message, err.code, (userWriteStatus.get? err.code).getD 502⟩

/-- An entry about a user. -/
def userEntry (action userId name : String) (detail : List (String × Detail)) : Entry where
  action := action
  resourceType := "user"
  resourceId := userId
  resourceName := name
  detail := detail

/-- The payload of a new user. -/
structure UserCreateData where
  name : Option String
  email : Option String
  password : Option String
  projectId : Option String
  mustChangePassword : Option Bool

/-- What came of a new user: the cloud's answer, and the role in the project it was asked with. -/
structure CreatedUser where
  body : Option IdentityBody
  roleGranted : Bool
  grantError : Option ZadaraError

def CreatedUser.userId (created : CreatedUser) : String :=
  (created.body.bind IdentityBody.id).getD ""

/-- The payload of an edited user. -/
structure UserUpdateData where
  name : Option String
  email : Option String
  enabled : Option Bool
  password : Option String
  passwordNeverExpires : Option Bool

/-- `changes`. -/
def UserUpdateData.changes (data : UserUpdateData) : UserFields where
  name := data.name.map strip
  email := data.email.map strip
  enabled := data.enabled
  password := keep data.password
  passwordNeverExpires := data.passwordNeverExpires

/-- `sorted(k for k in changes if k != 'password')`. -/
def UserFields.names (changes : UserFields) : List String :=
  ([("email", changes.email.isSome), ("enabled", changes.enabled.isSome),
    ("name", changes.name.isSome),
    ("password_never_expires", changes.passwordNeverExpires.isSome)].filter Prod.snd).map Prod.fst

section

variable {W : Type} (c : Casing) (up : Upstream W) (user : CabinetUser) (vaulted : Option String)

/-- `account_domain`, for the domain. -/
def callerDomain : Except Refusal String :=
  match accountDomain c up.toCloud user with
  | .error err => .error (.app err)
  | .ok (_, domainId) => .ok domainId

/-- `_user_of_account`: the name of a user of the caller's own account. -/
def userOfAccount (userId : String) : Except Refusal String := do
  let domainId ← callerDomain c up user
  let users ← (up.domainUsers domainId).mapError unreachable
  match users.find? fun u => u.1 = userId with
  | none => throw (.app ⟨"No such user in your account.", "not_found", 404⟩)
  | some found => return found.2

/-- Create a user and give it a role in the project, a separate call; a refused role is left at
that. -/
def createWithRole (token : String) (payload : UserPayload) : CloudCall W CreatedUser := do
  let body ← createUser up.toWriteApi token payload
  let userId := (body.bind IdentityBody.id).getD ""
  if payload.projectId ≠ "" ∧ userId ≠ "" then
    try
      let _ ← grantProjectRole up.toWriteApi token payload.projectId userId
      return ⟨body, true, none⟩
    catch err =>
      return ⟨body, false, some err⟩
  else return ⟨body, false, none⟩

/-- `AdminUserCreateView.post` up to the cloud. -/
def userCreateAsk (data : UserCreateData) :
    Except Refusal (Change W CreatedUser (Option IdentityBody × Bool)) := do
  let domainId ← callerDomain c up user
  let token ← requireToken vaulted
  let name := strip (data.name.getD "")
  let email := strip (data.email.getD "")
  let password := data.password.getD ""
  let projectId := strip (data.projectId.getD "")
  let mustChange := data.mustChangePassword.getD true
  if name = "" ∨ password = "" then
    throw (.app ⟨"A username and a password are required.", "invalid_request", 400⟩)
  -- the list is not read without a project, and its error is not caught
  if projectId ≠ "" then
    let projects ← (up.toCloud.listDomainProjects domainId).mapError .cloud
    if projectId ∉ projects.keys then
      throw (.app ⟨"No such project in your account.", "invalid_request", 400⟩)
  return {
    call := createWithRole up token ⟨name, email, password, projectId, domainId, mustChange⟩
    failed := userEntry "user.create" "" name []
    refuse := userWriteFailed
    aside := fun created => created.grantError.map fun err =>
      (userEntry "user.grant_role" created.userId name [("projectId", .text projectId)], err.code)
    done := fun created => userEntry "user.create" created.userId name
      [("projectId", .text projectId), ("roleGranted", .flag created.roleGranted),
        ("mustChangePassword", .flag mustChange)]
    reply := fun created => (created.body, created.roleGranted) }

/-- `AdminUserDetailView.patch` up to the cloud. -/
def userUpdateAsk (userId : String) (data : UserUpdateData) :
    Except Refusal (Change W (Option IdentityBody) (Option IdentityBody)) := do
  let target ← userOfAccount c up user userId
  let token ← requireToken vaulted
  let changes := data.changes
  if changes.names = [] ∧ changes.password = none then
    throw (.app ⟨"Nothing to change.", "invalid_request", 400⟩)
  -- disabling oneself locks one out of the cabinet
  if changes.enabled = some false ∧ userId = user.userId then
    throw (.app ⟨"You cannot disable your own account.", "invalid_request", 400⟩)
  return {
    call := updateUser up.toWriteApi token userId changes
    failed := userEntry "user.update" userId target []
    refuse := userWriteFailed
    aside := fun _ => none
    done := fun _ => userEntry "user.update" userId target
      [("fields", .texts changes.names), ("passwordSet", .flag changes.password.isSome)]
    reply := id }

/-- `AdminUserDetailView.delete` up to the cloud; the answer is what it says. -/
def userDeleteAsk (userId : String) : Except Refusal (Change W (Option IdentityBody) String) := do
  let target ← userOfAccount c up user userId
  let token ← requireToken vaulted
  if userId = user.userId then
    throw (.app ⟨"You cannot delete your own account.", "invalid_request", 400⟩)
  return {
    call := deleteUser up.toWriteApi token userId
    failed := userEntry "user.delete" userId target []
    refuse := userWriteFailed
    aside := fun _ => none
    done := fun _ => userEntry "user.delete" userId target []
    reply := fun _ => "User " ++ target ++ " was deleted." }

variable (w : CabinetWorld W)

/-- `AdminUserCreateView.post`. -/
def userCreatePost (data : UserCreateData) :
    Except Refusal (Option IdentityBody × Bool) × CabinetWorld W :=
  attempt user (userCreateAsk c up user vaulted data) w

/-- `AdminUserDetailView.patch`. -/
def userUpdatePatch (userId : String) (data : UserUpdateData) :
    Except Refusal (Option IdentityBody) × CabinetWorld W :=
  attempt user (userUpdateAsk c up user vaulted userId data) w

/-- `AdminUserDetailView.delete`; the user's row goes last. -/
def userDelete (userId : String) : Except Refusal String × CabinetWorld W :=
  match attempt user (userDeleteAsk c up user vaulted userId) w with
  | (.error err, w) => (.error err, w)
  | (.ok reply, w) => (.ok reply, { w with users := w.users.remove userId })

end

end OpenCloud
