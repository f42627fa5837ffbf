import OpenCloud.Lib.Tables
import OpenCloud.Common.Tenancy

/-!
# The users of the cabinet

Users are not created by hand: a sign-in that the cloud accepts writes the row of its identity.  The
row keeps the account by name and by the id of its domain.

## Main results

* `eq_of_mem_signIns` : after any sign-ins, the row of a user is what the last sign-in under its id
  wrote.
-/

namespace OpenCloud

/-- What the cloud says about an identity it accepted. -/
structure AuthResult where
  userId : String
  userName : String
  email : Option String
  accountId : Option String
  accountName : String
  roles : List String
  deriving DecidableEq

/-- The application's own roles. -/
inductive AppRole where
  | user
  | admin
  deriving DecidableEq, Repr

/-- The roles of the cloud that make an administrator. -/
def adminRoles : List String :=
  ["admin", "tenant_admin", "account_admin", "accountadmin", "cloud_admin", "superadmin",
    "msp_admin"]

/-- `resolve_app_role`: matched exactly, not as substrings. -/
def resolveAppRole (c : Casing) (zadaraRoles : List String) : AppRole :=
  if ∃ r ∈ zadaraRoles, c.lower r ∈ adminRoles then .admin else .user

/-- A row of `users`. -/
structure User extends CabinetUser where
  email : Option String
  accountId : String
  appRole : AppRole

/-- The row `upsert_user` writes for an identity. -/
def AuthResult.user (c : Casing) (result : AuthResult) : User where
  userId := result.userId
  username := result.userName
  email := if truthy result.email then result.email else none
  account := result.accountName
  accountId := result.accountId.getD ""
  appRole := resolveAppRole c result.roles

/-- The table `users`: an id of the cloud has one row. -/
structure UserTable where
  rows : List User
  unique : rows.Pairwise fun a b => a.userId ≠ b.userId

namespace UserTable

def empty : UserTable := ⟨[], List.Pairwise.nil⟩

/-- The row of the same id. -/
def SameId (userId : String) (u : User) : Prop := u.userId = userId

instance (userId : String) : DecidablePred (SameId userId) :=
  fun u => inferInstanceAs (Decidable (u.userId = userId))

end UserTable

/-- `upsert_user`: create or update the row of the identity. -/
def upsertUser (c : Casing) (users : UserTable) (result : AuthResult) : UserTable where
  rows := Table.upsert (UserTable.SameId result.userId) (result.user c)
    (fun _ => result.user c) users.rows
  unique := Table.pairwise_upsert users.unique
    (fun a b (ha : a.userId = result.userId) hab => by
      show result.userId ≠ b.userId
      exact ha ▸ hab)
    (fun a b (hb : b.userId = result.userId) hab => by
      show a.userId ≠ result.userId
      exact hb ▸ hab)
    (fun a ha => ha)

/-- The users after sign-ins. -/
def signIns (c : Casing) (users : UserTable) (results : List AuthResult) : UserTable :=
  results.foldl (upsertUser c) users

section

variable {c : Casing} {users : UserTable} {result : AuthResult} {u : User}

theorem mem_upsertUser : u ∈ (upsertUser c users result).rows ↔
    u = result.user c ∨ (u ∈ users.rows ∧ u.userId ≠ result.userId) := by
  refine Table.mem_upsert_iff (users.unique.imp ?_)
  intro a b hab ⟨ha, hb⟩
  exact hab (Eq.trans ha (Eq.symm hb))

theorem mem_signIns {results : List AuthResult} (hother : ∀ r ∈ results, r.userId ≠ u.userId) :
    u ∈ (signIns c users results).rows ↔ u ∈ users.rows := by
  induction results generalizing users with
  | nil => rfl
  | cons r results ih =>
    obtain ⟨hr, hrest⟩ := List.forall_mem_cons.1 hother
    have hne : u ≠ r.user c := by
      rintro rfl
      exact hr rfl
    rw [signIns, List.foldl_cons, ← signIns, ih hrest, mem_upsertUser]
    simp [hne, hr.symm]

/-- After any sign-ins, the row of a user is what the last sign-in under its id wrote. -/
theorem eq_of_mem_signIns {before after : List AuthResult}
    (hu : u ∈ (signIns c users (before ++ result :: after)).rows) (hid : u.userId = result.userId)
    (hlast : ∀ r ∈ after, r.userId ≠ result.userId) : u = result.user c := by
  rw [signIns, List.foldl_append, List.foldl_cons] at hu
  rw [← hid] at hlast
  rcases mem_upsertUser.1 ((mem_signIns hlast).1 hu) with h | ⟨-, hne⟩
  · exact h
  · exact absurd hid hne

end

end OpenCloud
