import OpenCloud.Audit.Journals
import OpenCloud.Common.Exceptions
import OpenCloud.Lib.Caches
import OpenCloud.Platform.Operators

/-!
# Sign-in of operators

Step 1, `loginPost`, checks the password and gives a ticket; step 2, `loginVerifyPost`, checks the
second factor and starts a session.  The ticket remembers the stage step 1 announced: for an
operator without an authenticator it holds a fresh secret, which step 2 stores once a code proves
possession of it.

Step 2 looks at the operator's row again: whatever factor the operator is on by then is the one it
checks.  Whether the operator is enrolling it asks the ticket.

## Main results

* `loginVerifyPost_cases` : step 2 either keeps the sessions and the authenticators, or signs in.
-/

namespace OpenCloud

/-! ### Tickets -/

/-- What a ticket stands for. -/
structure Ticket where
  adminId : ℕ
  enrolling : Bool
  pendingSecret : Option String
  deriving DecidableEq

namespace Ticket

/-- `TTL_SECONDS`. -/
def ttlSeconds : ℕ := 4 * 60

variable (cache : Cache String Ticket) (now : Instant)

/-- `tickets.issue`, the random id being `ticket`. -/
def issue (ticket : String) (payload : Ticket) : Cache String Ticket :=
  cache.set now ticket payload (seconds ttlSeconds)

/-- `tickets.load`. -/
def load (ticket : String) : Option Ticket := if ticket = "" then none else cache.get now ticket

/-- `tickets.revoke`. -/
def revoke (ticket : String) : Cache String Ticket := cache.delete ticket

end Ticket

/-! ### One-time codes -/

/-- The codes that have been used, by operator. -/
abbrev UsedCodes := Cache (ℕ × String) Unit

namespace Totp

/-- `_REPLAY_TTL`. -/
def replayTtl : ℕ := 30 * (2 * 1 + 1)

/-- `ISSUER`. -/
def issuer : String := "OpenCloud Admin"

section

variable (k : Crypto)

/-- `totp.decrypt`. -/
def decrypt (stored : String) : Option String :=
  if stored = "" then none else k.fernetDecrypt stored

/-- The six digits typed, spaces aside. -/
def normalize (code : String) : String :=
  String.ofList ((strip code).toList.filter fun ch => ch ≠ ' ')

/-- `totp.verify`: true once for each code. -/
def verify (used : UsedCodes) (now : Instant) (secret code : String) (adminId : ℕ) :
    Bool × UsedCodes :=
  let code := normalize code
  if secret = "" ∨ ¬ code.toList.all k.isDigit ∨ code.length ≠ 6 then (false, used)
  else if !k.accepts secret code now then (false, used)
  else used.add now (adminId, code) () (seconds replayTtl)

end

theorem decrypt_encrypt (k : Crypto) (iv secret : String) :
    decrypt k (k.fernetEncrypt iv secret) = some secret := by
  rw [decrypt, if_neg (k.encrypt_ne_empty iv secret), k.decrypt_encrypt]

end Totp

/-! ### The second factor -/

section

variable (k : Crypto) (admin : PlatformAdmin)

/-- The secret on the operator's row. -/
def PlatformAdmin.storedSecret : Option String := Totp.decrypt k admin.totpSecret

/-- The secret step 2 checks the code against. -/
def checkedSecret (payload : Ticket) : Option String :=
  if payload.enrolling then Totp.decrypt k (payload.pendingSecret.getD "") else admin.storedSecret k

/-- What step 2 checks: the access code where the operator has one, else a code of the
authenticator. -/
def secondFactor (used : UsedCodes) (now : Instant) (payload : Ticket) (code : String) :
    Bool × UsedCodes :=
  if admin.usesAccessCode k then (admin.checkAccessCode k code, used)
  else match checkedSecret k admin payload with
    | none => (false, used)
    | some secret => Totp.verify k used now secret code admin.pk

/-- The secret a successful step 2 stores, none unless it enrols the operator. -/
def enrolledSecret (payload : Ticket) : Option String :=
  if admin.usesAccessCode k ∨ payload.enrolling = false then none else checkedSecret k admin payload

/-- An authenticator is confirmed, and no access code stands in for it. -/
def PlatformAdmin.Confirmed : Prop :=
  admin.totpSecret ≠ "" ∧ admin.totpConfirmedAt ≠ none ∧ admin.usesAccessCode k = false

end

/-! ### The two steps -/

/-- A session of an operator. -/
structure Session where
  adminId : ℕ
  expires : Instant
  deriving DecidableEq

/-- `SESSION_SECONDS`. -/
def sessionSeconds : ℕ := 8 * 60 * 60

/-- What sign-in reads and writes. -/
structure Desk where
  admins : OperatorTable
  tickets : Cache String Ticket
  usedCodes : UsedCodes
  sessions : List Session
  journal : List AdminAction
  now : Instant

inductive Stage where
  | code
  | totp
  | enroll
  deriving DecidableEq, Repr

/-- The answer of step 1. -/
structure Challenge where
  stage : Stage
  ticket : String
  secret : Option String
  otpauthUri : Option String
  deriving DecidableEq

/-- `me_payload`; `lastLoginAt` stands for its text. -/
structure MePayload where
  id : ℕ
  email : String
  name : String
  role : String
  canWrite : Bool
  canBill : Bool
  lastLoginAt : Option Instant
  deriving DecidableEq

def mePayload (admin : PlatformAdmin) : MePayload :=
  ⟨admin.pk, admin.email, admin.name, admin.role.value, admin.role.canWrite, admin.role.canBill,
    admin.lastLoginAt⟩

/-- `services.record` of a sign-in. -/
def Desk.record (desk : Desk) (actorEmail action : String) (outcome : Outcome) (errorCode : String)
    (detail : List (String × Detail)) : Desk :=
  { desk with journal := desk.journal ++
      [⟨actorEmail, action, "", "", "", "", outcome, errorCode, detail⟩] }

/-- Save fields of an operator's row. -/
def Desk.save (desk : Desk) (pk : ℕ) (change : PlatformAdmin → PlatformAdmin)
    (h : KeepsIdentity change) : Desk := { desk with admins := desk.admins.save pk change h }

theorem keepsIdentity_saveLockout (copy : PlatformAdmin) : KeepsIdentity copy.saveLockout :=
  fun _ => ⟨rfl, rfl⟩

theorem keepsIdentity_saveLogin (copy : PlatformAdmin) : KeepsIdentity copy.saveLogin :=
  fun _ => ⟨rfl, rfl⟩

theorem keepsIdentity_saveTotp (copy : PlatformAdmin) : KeepsIdentity copy.saveTotp :=
  fun _ => ⟨rfl, rfl⟩

theorem keepsIdentity_saveAccessCode (copy : PlatformAdmin) : KeepsIdentity copy.saveAccessCode :=
  fun _ => ⟨rfl, rfl⟩

/-- `admin.note_failure()` and its journal row. -/
def Desk.noteFailure (desk : Desk) (admin : PlatformAdmin) (errorCode : String) : Desk :=
  (desk.save admin.pk (admin.noteFailure desk.now).saveLockout (keepsIdentity_saveLockout _)).record
    admin.email "admin.login" .failure errorCode []

/-- `_BAD_CREDENTIALS`. -/
def badCredentials : AppError := ⟨"Invalid e-mail or password.", "invalid_credentials", 401⟩

def accountLocked : AppError :=
  ⟨"Too many failed attempts. Try again in a few minutes.", "account_locked", 403⟩

def mfaExpired : AppError := ⟨"This sign-in attempt expired. Start again.", "mfa_expired", 401⟩

/-- What a wrong second factor is answered, by the factor the operator is on. -/
def wrongCode (usesAccessCode : Bool) : AppError :=
  ⟨"That code is not valid.", if usesAccessCode then
    "invalid_access_code" else "invalid_mfa_code", 401⟩

/-- `LoginView.post`; the ticket id, the fresh secret and the vector of its encryption are drawn. -/
def loginPost (k : Crypto) (c : Casing) (desk : Desk) (email password ticket secret iv : String) :
    Except AppError Challenge × Desk :=
  let email := c.lower (strip email)
  match desk.admins.byEmail email with
  | none =>
    (.error badCredentials,
      desk.record "anonymous" "admin.login" .failure "unknown_operator" [("email", .text email)])
  | some admin =>
    if !admin.isActive then
      (.error badCredentials,
        desk.record "anonymous" "admin.login" .failure "unknown_operator" [("email", .text email)])
    else if admin.isLocked desk.now then
      (.error accountLocked, desk.record admin.email "admin.login" .failure "locked" [])
    else if !admin.checkPassword k password then
      (.error badCredentials, desk.noteFailure admin "bad_password")
    else if admin.usesAccessCode k then
      (.ok ⟨.code, ticket, none, none⟩,
        { desk with tickets := Ticket.issue desk.tickets desk.now ticket ⟨admin.pk, false, none⟩ })
    else if admin.totpConfirmedAt ≠ none ∧ admin.totpSecret ≠ "" then
      (.ok ⟨.totp, ticket, none, none⟩,
        { desk with tickets := Ticket.issue desk.tickets desk.now ticket ⟨admin.pk, false, none⟩ })
    else
      (.ok ⟨.enroll, ticket, some secret, some (k.provisioningUri secret admin.email Totp.issuer)⟩,
        { desk with
          tickets := Ticket.issue desk.tickets desk.now ticket
            ⟨admin.pk, true, some (k.fernetEncrypt iv secret)⟩ })

/-- Store the authenticator of an enrolling operator. -/
def enroll (k : Crypto) (desk : Desk) (payload : Ticket) (admin : PlatformAdmin) (iv : String) :
    PlatformAdmin × Desk :=
  match enrolledSecret k admin payload with
  | none => (admin, desk)
  | some secret =>
    let admin := { admin with
      totpSecret := k.fernetEncrypt iv secret, totpConfirmedAt := some desk.now }
    (admin, (desk.save admin.pk admin.saveTotp (keepsIdentity_saveTotp _)).record
      admin.email "admin.totp.enroll" .success "" [])

/-- `start_session`. -/
def Desk.startSession (desk : Desk) (admin : PlatformAdmin) : Desk :=
  { desk with sessions := desk.sessions ++ [⟨admin.pk, desk.now + seconds sessionSeconds⟩] }

/-- Step 2 from the moment the second factor is accepted. -/
def signedIn (k : Crypto) (desk : Desk) (ticket : String) (payload : Ticket) (admin : PlatformAdmin)
    (ip : Option String) (iv : String) : MePayload × Desk :=
  let enrolled := enroll k desk payload admin iv
  let desk := { enrolled.2 with
    tickets := Ticket.revoke enrolled.2.tickets ticket }.startSession enrolled.1
  let admin := enrolled.1.noteSuccess desk.now ip
  (mePayload admin, (desk.save admin.pk admin.saveLogin (keepsIdentity_saveLogin _)).record
    admin.email "admin.login" .success "" [])

/-- `LoginVerifyView.post`. -/
def loginVerifyPost (k : Crypto) (desk : Desk) (ticket code : String) (ip : Option String)
    (iv : String) : Except AppError MePayload × Desk :=
  let ticket := strip ticket
  let code := strip code
  match Ticket.load desk.tickets desk.now ticket with
  | none => (.error mfaExpired, desk)
  | some payload =>
    match desk.admins.activeByPk payload.adminId with
    | none => (.error badCredentials, { desk with tickets := Ticket.revoke desk.tickets ticket })
    | some admin =>
      if admin.isLocked desk.now then
        (.error accountLocked, { desk with tickets := Ticket.revoke desk.tickets ticket }.record
          admin.email "admin.login" .failure "locked" [])
      else
        let (accepted, used) := secondFactor k admin desk.usedCodes desk.now payload code
        let desk := { desk with usedCodes := used }
        if accepted then
          let (me, desk) := signedIn k desk ticket payload admin ip iv
          (.ok me, desk)
        else
          (.error (wrongCode (admin.usesAccessCode k)), desk.noteFailure admin
            (if admin.usesAccessCode k then "bad_access_code" else "bad_totp"))

/-! ### The command -/

/-- `ACCESS_CODE_MIN_LENGTH`. -/
def accessCodeMinLength : ℕ := 6

/-- `access_code_problem`. -/
def accessCodeProblem (k : Crypto) (admin : PlatformAdmin) (code : String) : Option String :=
  if code.length < accessCodeMinLength then
    some ("The access code must be at least " ++ toString accessCodeMinLength ++ " characters.")
  else if admin.checkPassword k code then some "The access code must differ from the password."
  else none

/-- `setplatformadmincode`, with the code the prompt took, none for `--clear`. -/
def setPlatformAdminCode (k : Crypto) (c : Casing) (desk : Desk) (email : String)
    (code : Option String) (salt : String) : Except String Desk :=
  let email := c.lower (strip email)
  match desk.admins.byEmail email with
  | none => .error ("No operator " ++ email ++ ".")
  | some admin =>
    match code with
    | none => .ok (desk.save admin.pk (admin.setAccessCode k "" "").saveAccessCode
        (keepsIdentity_saveAccessCode _))
    | some code =>
      match accessCodeProblem k admin code with
      | some problem => .error problem
      | none => .ok (desk.save admin.pk (admin.setAccessCode k salt code).saveAccessCode
          (keepsIdentity_saveAccessCode _))

/-! ### A small desk

The concrete runs of the development start from these. -/

/-- Codes and ciphers for the two secrets "S1" and "S2": a ciphertext is the text after a mark, and
each secret has one code. -/
def sampleCrypto : Crypto where
  checkHash raw encoded := raw = encoded
  usable encoded := encoded ≠ "!"
  makeHash _ raw := raw
  fernetEncrypt _ secret := String.ofList ('#' :: secret.toList)
  fernetDecrypt stored := match stored.toList with
    | '#' :: secret => some (String.ofList secret)
    | _ => none
  accepts secret code _ := (secret = "S1" ∧ code = "111111") ∨ (secret = "S2" ∧ code = "222222")
  provisioningUri secret name issuer := issuer ++ ":" ++ name ++ "?secret=" ++ secret
  isDigit := Char.isDigit
  decrypt_encrypt _ secret := by simp
  encrypt_ne_empty _ secret := by simp

/-- An operator who has not enrolled. -/
def freshOperator : PlatformAdmin :=
  ⟨1, "owner@opencloud.uz", "Owner", "pw", .owner, true, "", none, "", 0, none, none, none⟩

/-! ### What the requests write -/

/-- Every row of the second table is one of the first with the same authenticator. -/
def SameTotp (table table' : OperatorTable) : Prop :=
  ∀ b ∈ table'.rows, ∃ a ∈ table.rows,
    b.pk = a.pk ∧ b.totpSecret = a.totpSecret ∧ b.totpConfirmedAt = a.totpConfirmedAt

theorem SameTotp.refl (table : OperatorTable) : SameTotp table table :=
  fun b hb => ⟨b, hb, rfl, rfl, rfl⟩

theorem sameTotp_save {table : OperatorTable} {pk : ℕ} {change : PlatformAdmin → PlatformAdmin}
    {h : KeepsIdentity change} (hchange : ∀ a, (change a).totpSecret = a.totpSecret ∧
      (change a).totpConfirmedAt = a.totpConfirmedAt) :
        SameTotp table (table.save pk change h) := by
  intro b hb
  obtain ⟨a, ha, rfl⟩ := List.mem_map.1 hb
  refine ⟨a, ha, ?_⟩
  split_ifs
  · exact ⟨(h a).1, hchange a⟩
  · exact ⟨rfl, rfl, rfl⟩

theorem sameTotp_saveLogin (table : OperatorTable) (pk : ℕ) (copy : PlatformAdmin) :
    SameTotp table (table.save pk copy.saveLogin (keepsIdentity_saveLogin copy)) :=
  sameTotp_save fun _ => ⟨rfl, rfl⟩

theorem sameTotp_saveAccessCode (table : OperatorTable) (pk : ℕ) (copy : PlatformAdmin) :
    SameTotp table (table.save pk copy.saveAccessCode (keepsIdentity_saveAccessCode copy)) :=
  sameTotp_save fun _ => ⟨rfl, rfl⟩

theorem sameTotp_saveLockout (table : OperatorTable) (pk : ℕ) (copy : PlatformAdmin) :
    SameTotp table (table.save pk copy.saveLockout (keepsIdentity_saveLockout copy)) :=
  sameTotp_save fun _ => ⟨rfl, rfl⟩

section

variable {k : Crypto} {c : Casing} {desk : Desk} {payload : Ticket} {admin : PlatformAdmin}
  {email password ticket code secret iv : String} {ip : Option String}

theorem loginVerifyPost_of_accepted (hload : Ticket.load desk.tickets desk.now (strip ticket) =
    some payload)
    (hadmin : desk.admins.activeByPk payload.adminId = some admin)
    (hlocked : admin.isLocked desk.now = false)
    (haccepted : (secondFactor k admin desk.usedCodes desk.now payload (strip code)).1 = true) :
    (loginVerifyPost k desk ticket code ip iv).2 = (signedIn k { desk with
      usedCodes := (secondFactor k admin desk.usedCodes desk.now payload (strip code)).2 }
      (strip ticket) payload admin ip iv).2 := by
  simp only [loginVerifyPost, hload, hadmin, hlocked, haccepted, Bool.false_eq_true, ↓reduceIte]

/-- Step 2 either keeps the sessions, the authenticators and the tickets but its own, or accepts the
second factor. -/
theorem loginVerifyPost_cases (k : Crypto) (desk : Desk) (ticket code : String) (ip : Option String)
    (iv : String) :
    ((loginVerifyPost k desk ticket code ip iv).2.sessions = desk.sessions ∧
      (loginVerifyPost k desk ticket code ip iv).2.now = desk.now ∧
      SameTotp desk.admins (loginVerifyPost k desk ticket code ip iv).2.admins ∧
      ∀ e ∈ (loginVerifyPost k desk ticket code ip iv).2.tickets, e ∈ desk.tickets) ∨
    ∃ payload admin, Ticket.load desk.tickets desk.now (strip ticket) = some payload ∧
      desk.admins.activeByPk payload.adminId = some admin ∧ admin.isLocked desk.now = false ∧
      (secondFactor k admin desk.usedCodes desk.now payload (strip code)).1 = true := by
  have hrevoke : ∀ e ∈ Ticket.revoke desk.tickets (strip ticket), e ∈ desk.tickets :=
    fun e he => (Cache.mem_delete.1 he).1
  unfold loginVerifyPost
  dsimp only
  split
  · exact .inl ⟨rfl, rfl, SameTotp.refl _, fun e he => he⟩
  · rename_i payload hload
    split
    · exact .inl ⟨rfl, rfl, SameTotp.refl _, hrevoke⟩
    · rename_i admin hadmin
      by_cases hlocked : admin.isLocked desk.now = true
      · rw [if_pos hlocked]
        exact .inl ⟨rfl, rfl, SameTotp.refl _, hrevoke⟩
      · rw [if_neg hlocked]
        by_cases haccepted : (secondFactor k admin desk.usedCodes desk.now payload (strip code)).1 =
          true
        · exact .inr ⟨payload, admin, hload, hadmin, by simpa using hlocked, haccepted⟩
        · rw [if_neg haccepted]
          exact .inl ⟨rfl, rfl, sameTotp_saveLockout _ _ _, fun e he => he⟩

end

end OpenCloud
