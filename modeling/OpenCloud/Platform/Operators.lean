import OpenCloud.Common.Dates
import OpenCloud.Common.Text
import Mathlib.Data.List.Pairwise

/-!
# Platform operators

The people who run the service: a password and a second factor each, a TOTP authenticator or a
static access code that an owner set.  After five failures in a row an operator is locked for
fifteen minutes.

`Crypto` is what the code takes from libraries: Django's password hashes, Fernet and TOTP.  What a
library draws at random is an argument of the model's function.

A row is saved field by field: `saveLockout` and its siblings write the fields of a copy that the
code names in `update_fields` over the row, and leave the others.
-/

namespace OpenCloud

/-- Password hashes, encryption and one-time codes. -/
structure Crypto where
  /-- `check_password(raw, encoded)`. -/
  checkHash : String → String → Bool
  /-- `is_password_usable`. -/
  usable : String → Bool
  /-- `make_password(raw)`, with its salt. -/
  makeHash : String → String → String
  /-- `Fernet.encrypt`, with its initialization vector. -/
  fernetEncrypt : String → String → String
  /-- `Fernet.decrypt`; none where it raises. -/
  fernetDecrypt : String → Option String
  /-- `pyotp.TOTP(secret).verify(code, valid_window=1)`, at a moment. -/
  accepts : String → String → Instant → Bool
  /-- `pyotp.TOTP(secret).provisioning_uri(name, issuer_name)`. -/
  provisioningUri : String → String → String → String
  /-- `str.isdigit` of a character. -/
  isDigit : Char → Bool
  decrypt_encrypt : ∀ iv secret, fernetDecrypt (fernetEncrypt iv secret) = some secret
  encrypt_ne_empty : ∀ iv secret, fernetEncrypt iv secret ≠ ""

/-- Roles inside the admin panel. -/
inductive Role where
  | owner
  | ops
  | support
  | finance
  deriving DecidableEq, Repr

/-- The key stored in operator rows. -/
def Role.value : Role → String
  | owner => "OWNER"
  | ops => "OPS"
  | support => "SUPPORT"
  | finance => "FINANCE"

/-- `WRITE_ROLES`. -/
def Role.canWrite : Role → Bool
  | owner | ops => true
  | _ => false

/-- `BILLING_ROLES`. -/
def Role.canBill : Role → Bool
  | owner | finance => true
  | _ => false

/-- `MAX_FAILED_ATTEMPTS`. -/
def maxFailedAttempts : ℕ := 5

/-- `LOCKOUT_MINUTES`. -/
def lockoutMinutes : ℕ := 15

/-- How long a lock holds. -/
def lockout : ℕ := minutes lockoutMinutes

/-- An operator. -/
structure PlatformAdmin where
  pk : ℕ
  email : String
  name : String
  passwordHash : String
  role : Role
  isActive : Bool
  /-- Encrypted; empty until the first sign-in enrols the operator. -/
  totpSecret : String
  totpConfirmedAt : Option Instant
  accessCodeHash : String
  failedAttempts : ℕ
  lockedUntil : Option Instant
  lastLoginAt : Option Instant
  lastLoginIp : Option String
  deriving DecidableEq

namespace PlatformAdmin

section

variable (k : Crypto) (admin : PlatformAdmin)

def checkPassword (raw : String) : Bool :=
  k.usable admin.passwordHash && k.checkHash raw admin.passwordHash

def usesAccessCode : Bool := admin.accessCodeHash ≠ "" && k.usable admin.accessCodeHash

/-- An empty value clears the code. -/
def setAccessCode (salt raw : String) : PlatformAdmin :=
  { admin with accessCodeHash := if raw = "" then "" else k.makeHash salt raw }

def checkAccessCode (raw : String) : Bool :=
  admin.usesAccessCode k && k.checkHash raw admin.accessCodeHash

def isLocked (now : Instant) : Bool :=
  match admin.lockedUntil with
  | some lockedUntil => now < lockedUntil
  | none => false

/-- The fields `note_failure` sets. -/
def noteFailure (now : Instant) : PlatformAdmin :=
  if maxFailedAttempts ≤ admin.failedAttempts + 1 then
    { admin with failedAttempts := 0, lockedUntil := some (now + lockout) }
  else { admin with failedAttempts := admin.failedAttempts + 1 }

/-- The fields `note_success` sets. -/
def noteSuccess (now : Instant) (ip : Option String) : PlatformAdmin :=
  { admin with
    failedAttempts := 0, lockedUntil := none, lastLoginAt := some now, lastLoginIp := ip }

end

/-! ### Saving -/

section

variable (copy row : PlatformAdmin)

/-- `update_fields=['failed_attempts', 'locked_until']`. -/
def saveLockout : PlatformAdmin :=
  { row with failedAttempts := copy.failedAttempts, lockedUntil := copy.lockedUntil }

/-- `update_fields=['failed_attempts', 'locked_until', 'last_login_at', 'last_login_ip']`. -/
def saveLogin : PlatformAdmin :=
  { row with failedAttempts := copy.failedAttempts, lockedUntil := copy.lockedUntil
             lastLoginAt := copy.lastLoginAt, lastLoginIp := copy.lastLoginIp }

/-- `update_fields=['totp_secret', 'totp_confirmed_at']`. -/
def saveTotp : PlatformAdmin :=
  { row with totpSecret := copy.totpSecret, totpConfirmedAt := copy.totpConfirmedAt }

/-- `update_fields=['access_code_hash']`. -/
def saveAccessCode : PlatformAdmin := { row with accessCodeHash := copy.accessCodeHash }

end

theorem isLocked_iff {admin : PlatformAdmin} {now : Instant} :
    admin.isLocked now = true ↔ ∃ u, admin.lockedUntil = some u ∧ now < u := by
  unfold isLocked
  cases admin.lockedUntil <;> simp

end PlatformAdmin

/-- The table `platform_admins`. -/
structure OperatorTable where
  rows : List PlatformAdmin
  /-- The primary key and the unique constraint. -/
  unique : rows.Pairwise fun a b => a.pk ≠ b.pk ∧ a.email ≠ b.email

/-- A change of a row that keeps what identifies it. -/
def KeepsIdentity (change : PlatformAdmin → PlatformAdmin) : Prop :=
  ∀ a, (change a).pk = a.pk ∧ (change a).email = a.email

namespace OperatorTable

/-- Save a change of the row with the primary key. -/
def save (table : OperatorTable) (pk : ℕ) (change : PlatformAdmin → PlatformAdmin)
    (h : KeepsIdentity change) : OperatorTable where
  rows := table.rows.map fun a => if a.pk = pk then change a else a
  unique := by
    have hkeep : ∀ a : PlatformAdmin, (if a.pk = pk then change a else a).pk = a.pk ∧
        (if a.pk = pk then change a else a).email = a.email := by
      intro a
      split_ifs
      · exact h a
      · exact ⟨rfl, rfl⟩
    rw [List.pairwise_map]
    refine table.unique.imp fun {a b} hab => ?_
    rw [(hkeep a).1, (hkeep a).2, (hkeep b).1, (hkeep b).2]
    exact hab

/-- The row with an address. -/
def byEmail (table : OperatorTable) (email : String) : Option PlatformAdmin :=
  table.rows.find? fun a => a.email = email

/-- The active row with a primary key. -/
def activeByPk (table : OperatorTable) (pk : ℕ) : Option PlatformAdmin :=
  table.rows.find? fun a => a.pk = pk ∧ a.isActive

variable {table : OperatorTable} {pk : ℕ} {change : PlatformAdmin → PlatformAdmin}
  {a b : PlatformAdmin}

theorem eq_of_pk (ha : a ∈ table.rows) (hb : b ∈ table.rows) (h : a.pk = b.pk) : a = b := by
  by_contra hne
  have : Std.Symm fun a b : PlatformAdmin => a.pk ≠ b.pk ∧ a.email ≠ b.email :=
    ⟨fun _ _ h => ⟨h.1.symm, h.2.symm⟩⟩
  exact (table.unique.forall ha hb hne).1 h

theorem activeByPk_eq_some (h : table.activeByPk pk = some a) :
    a ∈ table.rows ∧ a.pk = pk ∧ a.isActive = true := by
  refine ⟨List.mem_of_find?_eq_some h, ?_⟩
  simpa using List.find?_some h

theorem activeByPk_of_mem (ha : a ∈ table.rows) (hactive : a.isActive = true) :
    table.activeByPk a.pk = some a := by
  cases hfind : table.activeByPk a.pk with
  | none => simpa [hactive] using List.find?_eq_none.1 hfind a ha
  | some b =>
    obtain ⟨hb, hpk, -⟩ := activeByPk_eq_some hfind
    rw [eq_of_pk hb ha hpk]

theorem byEmail_eq_some {email : String} (h : table.byEmail email = some a) : a ∈ table.rows :=
  List.mem_of_find?_eq_some h

end OperatorTable

end OpenCloud
