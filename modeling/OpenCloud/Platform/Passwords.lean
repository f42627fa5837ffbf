import OpenCloud.Lib.Tables
import OpenCloud.Platform.Authenticators

/-!
# The secrets of operators over time

An operator is created by a command, signs in in two steps, changes the password under a session,
and is given or relieved of a static access code by another command.  A row may be deactivated at
any moment, and the cache may drop a ticket before its time.
-/

namespace OpenCloud

/-! ### Passwords -/

namespace PlatformAdmin

/-- `set_password`. -/
def setPassword (k : Crypto) (admin : PlatformAdmin) (salt raw : String) : PlatformAdmin :=
  { admin with passwordHash := k.makeHash salt raw }

/-- `update_fields=['password_hash']`. -/
def savePassword (copy row : PlatformAdmin) : PlatformAdmin :=
  { row with passwordHash := copy.passwordHash }

/-- The row is activated or deactivated. -/
def saveActive (active : Bool) (row : PlatformAdmin) : PlatformAdmin :=
  { row with isActive := active }

end PlatformAdmin

theorem keepsIdentity_savePassword (copy : PlatformAdmin) : KeepsIdentity copy.savePassword :=
  fun _ => ⟨rfl, rfl⟩

theorem keepsIdentity_saveActive (active : Bool) :
    KeepsIdentity (PlatformAdmin.saveActive active) :=
  fun _ => ⟨rfl, rfl⟩

/-- `password_problem`; `isAlpha` is `str.isalpha` of a character. -/
def passwordProblem (k : Crypto) (isAlpha : Char → Bool) (password : String) : Option String :=
  if password.length < 12 then some "Password must be at least 12 characters."
  else if password.toList.all k.isDigit ∨ password.toList.all isAlpha then
    some "Password must mix letters, digits and punctuation."
  else none

/-- What a request without a session is answered. -/
def notSignedIn : AppError := ⟨"Authentication credentials were not provided.", "forbidden", 403⟩

/-- The operator a session stands for. -/
def Desk.operatorOf (desk : Desk) (session : Session) : Option PlatformAdmin :=
  if session ∈ desk.sessions ∧ desk.now < session.expires then
    desk.admins.activeByPk session.adminId else none

/-- `PasswordChangeView.post`.  The session of an operator who is not active any more is flushed. -/
def passwordChangePost (k : Crypto) (isAlpha : Char → Bool) (desk : Desk) (session : Session)
    (current new salt : String) : Except AppError Unit × Desk :=
  match desk.operatorOf session with
  | none => (.error notSignedIn, { desk with sessions := desk.sessions.erase session })
  | some admin =>
    if !admin.checkPassword k current then
      (.error ⟨"Current password is not correct.", "invalid_credentials", 401⟩,
        desk.record admin.email "admin.password.change" .failure "bad_password" [])
    else match passwordProblem k isAlpha new with
      | some problem => (.error ⟨problem, "weak_password", 400⟩, desk)
      | none =>
        (.ok (), (desk.save admin.pk (admin.setPassword k salt new).savePassword
          (keepsIdentity_savePassword _)).record admin.email "admin.password.change" .success "" [])

/-! ### New operators -/

namespace OperatorTable

/-- The next primary key. -/
def nextPk (table : OperatorTable) : ℕ := (table.rows.map PlatformAdmin.pk).foldl max 0 + 1

/-- Save a new row, under the next primary key. -/
def create (table : OperatorTable) (admin : PlatformAdmin) (h : table.byEmail admin.email = none) :
    OperatorTable where
  rows := table.rows ++ [{ admin with pk := table.nextPk }]
  unique := by
    refine List.pairwise_append.2 ⟨table.unique, List.pairwise_singleton _ _, fun a ha b hb => ?_⟩
    rw [List.mem_singleton.1 hb]
    refine ⟨fun hpk => ?_, fun hemail => ?_⟩
    · have hmem : table.nextPk ∈ table.rows.map PlatformAdmin.pk :=
        List.mem_map.2 ⟨a, ha, hpk⟩
      exact Table.nextKey_notMem _ hmem
    · exact (List.find?_eq_none.1 h a ha) (by simpa using hemail)

end OperatorTable

/-- The row `createplatformadmin` fills in, before it has a key. -/
def newOperator (k : Crypto) (email name : String) (role : Role) (password salt : String) :
    PlatformAdmin where
  pk := 0
  email := email
  name := orElse name email
  passwordHash := k.makeHash salt password
  role := role
  isActive := true
  totpSecret := ""
  totpConfirmedAt := none
  accessCodeHash := ""
  failedAttempts := 0
  lockedUntil := none
  lastLoginAt := none
  lastLoginIp := none

/-- `createplatformadmin`, with the password and the access code the prompts took, none without
`--access-code`. -/
def createPlatformAdmin (k : Crypto) (c : Casing) (isAlpha : Char → Bool) (desk : Desk)
    (email name : String) (role : Role) (password : String) (code : Option String)
    (salt codeSalt : String) :
    Except String Desk :=
  let email := c.lower (strip email)
  if h : desk.admins.byEmail email = none then
    match passwordProblem k isAlpha password with
    | some problem => .error problem
    | none =>
      let admin := newOperator k email name role password salt
      match code with
      | none => .ok { desk with admins := desk.admins.create admin h }
      | some code =>
        match accessCodeProblem k admin code with
        | some problem => .error problem
        | none =>
          .ok { desk with admins := desk.admins.create (admin.setAccessCode k codeSalt code) h }
  else .error (email ++ " already exists.")

/-! ### The system -/

/-- What happens to the operators; the random draws are part of the request. -/
inductive OperatorRequest where
  | signIn (request : SignInRequest)
  /-- `PasswordChangeView.post` under a session. -/
  | changePassword (session : Session) (current new salt : String)
  /-- `createplatformadmin`. -/
  | create (email name : String) (role : Role) (password : String) (code : Option String)
      (salt codeSalt : String)
  /-- A row is activated or deactivated. -/
  | setActive (pk : ℕ) (active : Bool)
  /-- The cache drops a ticket. -/
  | evict (ticket : String)

/-- The desk after a request. -/
def serveOperators (k : Crypto) (c : Casing) (isAlpha : Char → Bool) (desk : Desk) :
    OperatorRequest → Desk
  | .signIn request => serveSignIn k c desk request
  | .changePassword session current new salt =>
    (passwordChangePost k isAlpha desk session current new salt).2
  | .create email name role password code salt codeSalt =>
    match createPlatformAdmin k c isAlpha desk email name role password code salt codeSalt with
    | .ok desk' => desk'
    | .error _ => desk
  | .setActive pk active =>
    desk.save pk (PlatformAdmin.saveActive active) (keepsIdentity_saveActive active)
  | .evict ticket => { desk with tickets := desk.tickets.delete ticket }

/-- The operators over time. -/
def operators (k : Crypto) (c : Casing) (isAlpha : Char → Bool) : System Desk OperatorRequest :=
  System.ofExec fun desk request => some (serveOperators k c isAlpha desk request)

end OpenCloud
