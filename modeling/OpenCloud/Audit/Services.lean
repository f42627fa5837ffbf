import OpenCloud.Accounts.Users
import OpenCloud.Billing.Database
import OpenCloud.Integrations.Writes

/-!
# Recording what a user does

A view of the cabinet that changes the cloud first checks the request, then makes the change and
records in the journal how that ended.  `Change` is a change a request is cleared to make,
`Change.make` makes and records it.

The writes of the row itself succeed.

## Main results

* `make_of_error`, `make_of_ok` : what a change leaves, by how the cloud answered.
-/

namespace OpenCloud

/-- What the cabinet writes to: the cloud, whose state is a `W`, its users and the tables. -/
structure CabinetWorld (W : Type) where
  cloud : W
  users : UserTable
  db : Db
  /-- How often a row of `tariffs` or `billing_profiles` was saved: each save moves its
  `updated_at`. -/
  saves : ℕ

/-- What a row of the journal says was done. -/
structure Entry where
  action : String
  resourceType : String
  resourceId : String
  resourceName : String
  detail : List (String × Detail)

/-- The row of an entry, under the name and account of the user. -/
def Entry.row (entry : Entry) (user : CabinetUser) (outcome : Outcome) (errorCode : String) :
    AuditLog where
  username := orElse user.username "anonymous"
  account := user.account
  action := entry.action
  resourceType := entry.resourceType
  resourceId := entry.resourceId
  resourceName := entry.resourceName
  outcome := outcome
  errorCode := errorCode
  detail := entry.detail

/-- Why a view answers nothing: an `AppError`, or an error of the cloud that it does not catch. -/
inductive Refusal where
  | app (err : AppError)
  | cloud (err : ZadaraError)

/-- A change in the cloud that a request is cleared to make: the cloud answers it with a `β`, the
view with a `γ`. -/
structure Change (W β γ : Type) where
  call : CloudCall W β
  /-- What is recorded of a call that raised. -/
  failed : Entry
  refuse : ZadaraError → AppError
  /-- A step of the change that failed alone, with the code of its error. -/
  aside : β → Option (Entry × String)
  done : β → Entry
  reply : β → γ

namespace CabinetWorld

variable {W : Type}

/-- `record`. -/
def record (w : CabinetWorld W) (user : CabinetUser) (entry : Entry) (outcome : Outcome)
    (errorCode : String) :
    CabinetWorld W :=
  { w with db := w.db.audit (entry.row user outcome errorCode) }

/-- The rows of the journal that `w'` has and `w` has not. -/
def newRows (w w' : CabinetWorld W) : List AuditLog := w'.db.auditLog.drop w.db.auditLog.length

end CabinetWorld

section

variable {W β γ : Type}

/-- Make the change and record how it ended. -/
def Change.make (change : Change W β γ) (user : CabinetUser) (w : CabinetWorld W) :
    Except Refusal γ × CabinetWorld W :=
  match change.call w.cloud with
  | (.error err, cloud) =>
    (.error (.app (change.refuse err)),
      { w with cloud := cloud }.record user change.failed .failure err.code)
  | (.ok b, cloud) =>
    let w := { w with cloud := cloud }
    let w := match change.aside b with
      | none => w
      | some (entry, code) => w.record user entry .failure code
    (.ok (change.reply b), w.record user (change.done b) .success "")

/-- A request that may be cleared to make a change. -/
def attempt (user : CabinetUser) (ask : Except Refusal (Change W β γ)) (w : CabinetWorld W) :
    Except Refusal γ × CabinetWorld W :=
  match ask with
  | .error err => (.error err, w)
  | .ok change => change.make user w

/-! ### What a request leaves -/

variable {user : CabinetUser} {change : Change W β γ} {w : CabinetWorld W} {cloud : W}

theorem make_of_error {err : ZadaraError} (h : change.call w.cloud = (.error err, cloud)) :
    (change.make user w).2 = { w with cloud := cloud, db := { w.db with
      auditLog := w.db.auditLog ++ [change.failed.row user .failure err.code] } } := by
  rw [Change.make, h]
  rfl

theorem make_of_ok {b : β} (h : change.call w.cloud = (.ok b, cloud)) : ∃ aside,
    (change.make user w).2 = { w with cloud := cloud, db := { w.db with
      auditLog := w.db.auditLog ++ aside ++ [(change.done b).row user .success ""] } } := by
  rw [Change.make, h]
  dsimp only
  cases change.aside b with
  | none => exact ⟨[], by simp [CabinetWorld.record, Db.audit]⟩
  | some failed => exact ⟨[failed.1.row user .failure failed.2], rfl⟩

end

end OpenCloud
