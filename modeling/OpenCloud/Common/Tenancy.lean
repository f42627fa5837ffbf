import OpenCloud.Common.Exceptions
import OpenCloud.Integrations.Resources

/-!
# The account boundary

An administrator administers their own account and nothing else.
-/

namespace OpenCloud

/-- A signed-in user of the cabinet. -/
structure CabinetUser where
  account : String
  username : String
  /-- `get_username()`: the user id of the cloud. -/
  userId : String

/-- `handler500`: what an exception that no view catches is answered. -/
def serverError : AppError := ⟨"Internal server error.", "server_error", 500⟩

/-- The answer to an exception, where the view catches a `ZadaraError` only. -/
def Raised.answered (caught : ZadaraError → AppError) : Raised → AppError
  | .zadara err => caught err
  | .other _ => serverError

/-- The caller's account name and its cloud id. -/
def accountDomain (c : Casing) (cloud : Cloud) (user : CabinetUser) :
    Except AppError (String × String) :=
  let account := strip user.account
  if account = "" then
    .error ⟨"Your session has no account, please sign in again.", "session_expired", 401⟩
  else match cloud.resolveDomainId c account with
    | .error raised =>
      .error (raised.answered fun err => ⟨"Failed to reach the cloud", err.code, 502⟩)
    | .ok domainId => match domainId.getD "" with
      | "" => .error ⟨"Account not found in the cloud.", "account_not_found", 404⟩
      | domainId => .ok (account, domainId)

/-- The boundary answers the account's name with the domain found under it. -/
theorem accountDomain_eq_ok_iff {c : Casing} {cloud : Cloud} {user : CabinetUser}
    {account d : String} :
    accountDomain c cloud user = .ok (account, d) ↔
      account = strip user.account ∧ account ≠ "" ∧ d ≠ "" ∧
        cloud.resolveDomainId c account = .ok (some d) := by
  unfold accountDomain
  dsimp only
  constructor
  · intro h
    split at h
    · cases h
    · rename_i haccount
      split at h
      · cases h
      · rename_i found hfound
        split at h
        · cases h
        · rename_i hne
          obtain ⟨rfl, rfl⟩ := Prod.mk.inj (Except.ok.inj h)
          refine ⟨rfl, haccount, hne, ?_⟩
          cases found with
          | none => exact absurd rfl hne
          | some d => exact hfound
  · rintro ⟨rfl, haccount, hne, hfound⟩
    rw [if_neg haccount, hfound]
    dsimp only [Option.getD_some]
    split
    · exact absurd rfl hne
    · rfl

end OpenCloud
