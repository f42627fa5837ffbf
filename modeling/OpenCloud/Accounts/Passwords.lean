import OpenCloud.Accounts.Sessions
import OpenCloud.Integrations.Passwords

/-!
# The password pages of the cabinet

A link to reset a password is asked for by anyone, and what the page answers must not tell whether
the account, the user and the address belong together.  The secret of the link comes back with the
new password.  A password is changed with the current one; a user who is signed in does not say who
they are, and has to sign in again.

## Main results

* `reset_tells_nothing_iff` : the answer to a request for a link does not depend on the cloud, if
  and only if what the cloud answers can be read.
-/

namespace OpenCloud

/-- How one of the pages fails. -/
inductive PasswordRefusal where
  | app (err : AppError)
  | crash (crash : Crash)

/-- `data.get(name) or ''`. -/
def fieldOf (data : Json) (name : String) : Except PasswordRefusal Json :=
  match data.get name with
  | .ok value => .ok (value.or (.string ""))
  | .error err => .error (.crash (.python err))

/-- `(data.get(name) or '').strip()`. -/
def textOf (data : Json) (name : String) : Except PasswordRefusal String := do
  match ← fieldOf data name with
  | .string s => return strip s
  | _ => throw (.crash (.python .attributeError))

/-- The answer once the call has ended; a `ZadaraError` is raised as an `AppError`. -/
def answerOf (reply : String) : Except PasswordFailure Unit → Except PasswordRefusal String
  | .ok () => .ok reply
  | .error (.zadara err) => .error (.app (raiseFromZadara err.toZadaraError))
  | .error (.crash crash) => .error (.crash crash)

/-- The answer whatever became of the call: a `ZadaraError` is passed over. -/
def passOver (reply : String) : Except PasswordFailure Unit → Except PasswordRefusal String
  | .error (.crash crash) => .error (.crash crash)
  | .error (.zadara _) => .ok reply
  | .ok () => .ok reply

/-! ### A forgotten password -/

/-- What is said to everyone who asks for a link. -/
def resetSent : String := "If the details match an account, a reset link has been sent."

section

variable (t : PyText) (c : Casing) (ask : HttpCall → Except RequestError HttpResponse)

/-- `PasswordResetRequestView.post`. -/
def passwordResetRequestPost (urlTemplate : String) (data : Json) :
    Except PasswordRefusal String := do
  let account ← textOf data "account"
  let username ← textOf data "username"
  let email ← textOf data "email"
  if account ≠ "" ∧ username ≠ "" ∧ email ≠ "" then
    passOver resetSent (requestReset t ask account username email urlTemplate)
  else return resetSent

/-- `PasswordResetVerifyView.post`. -/
def passwordResetVerifyPost (data : Json) : Except PasswordRefusal String := do
  let secret ← textOf data "secret"
  let newPassword ← fieldOf data "newPassword"
  if secret = "" ∨ newPassword.truth = false then
    throw (.app ⟨"A reset link and a new password are required.", "invalid_request", 400⟩)
  else
    answerOf "Password updated. You can sign in with it now."
      (verifyReset t c ask secret newPassword)

end

/-! ### A change -/

/-- `logout`, and the token of the session dropped. -/
def Cabinet.logout (cab : Cabinet) (key : String) : Cabinet :=
  { cab with
    sessions := Function.update cab.sessions key none, vault := Vault.delete cab.vault key }

/-- The user of a session, if there is one. -/
def Cabinet.userOf (cab : Cabinet) (key : String) : Option User :=
  (cab.sessions key).bind fun session => cab.users.byId session.userId

/-- The token of a session, if there is one. -/
def Cabinet.tokenOf (k : Crypto) (cab : Cabinet) (key : String) : Option String :=
  (cab.sessions key).bind fun _ => Vault.get k cab.vault cab.now key

/-- Who changes the password: the user of the session, or who the payload names. -/
def changingUser (cab : Cabinet) (key : String) (data : Json) :
    Except PasswordRefusal (String × String) :=
  match cab.userOf key with
  | some user => .ok (user.account, user.username)
  | none => do
    let account ← textOf data "account"
    let username ← textOf data "username"
    return (account, username)

/-- `PasswordChangeView.post` up to the cloud: what is sent. -/
def passwordChangeAsk (k : Crypto) (cab : Cabinet) (key : String) (data : Json) :
    Except PasswordRefusal HttpCall := do
  let currentPassword ← fieldOf data "currentPassword"
  let newPassword ← fieldOf data "newPassword"
  let (account, username) ← changingUser cab key data
  if account = "" ∨ username = "" ∨ currentPassword.truth = false ∨ newPassword.truth = false then
    throw (.app ⟨"Account, username, the current password and a new password are required.",
      "invalid_request", 400⟩)
  else do
    let code ← textOf data "mfaCode"
    return changeCall account username currentPassword newPassword (some code) (cab.tokenOf k key)

/-- `PasswordChangeView.post`. -/
def cabinetPasswordChangePost (k : Crypto) (t : PyText) (c : Casing)
    (ask : HttpCall → Except RequestError HttpResponse)
    (cab : Cabinet) (key : String) (data : Json) : Except PasswordRefusal String × Cabinet :=
  match passwordChangeAsk k cab key data with
  | .error err => (.error err, cab)
  | .ok call =>
    match answerOf "Password changed. Please sign in again."
      (afterAnswer t (changeError c) (ask call)) with
    | .error err => (.error err, cab)
    | .ok reply => (.ok reply, cab.logout key)

/-! ### What a request for a link tells -/

/-- The answer of a cloud that nothing is asked. -/
def resetAnswer (data : Json) : Except PasswordRefusal String := do
  let _ ← textOf data "account"
  let _ ← textOf data "username"
  let _ ← textOf data "email"
  return resetSent

/-- The request makes the cloud send a link. -/
def SendsLink (urlTemplate : String) (data : Json) (call : HttpCall) : Prop :=
  ∃ account username email, textOf data "account" = .ok account ∧
    textOf data "username" = .ok username ∧
    textOf data "email" = .ok email ∧ (account ≠ "" ∧ username ≠ "" ∧ email ≠ "") ∧
    contains urlTemplate secretPlaceholder = true ∧
      call = resetCall account username email urlTemplate

section

variable {t : PyText} {ask : HttpCall → Except RequestError HttpResponse}
  {urlTemplate account username email : String}

theorem passOver_eq_ok {reply : String} {result : Except PasswordFailure Unit} :
    passOver reply result = .ok reply ↔ ∀ crash, result ≠ .error (.crash crash) := by
  cases result with
  | ok done => simp [passOver]
  | error failure => cases failure <;> simp [passOver]

theorem requestReset_iff :
    (∀ crash, requestReset t ask account username email urlTemplate ≠ .error (.crash crash)) ↔
    (contains urlTemplate secretPlaceholder = true →
      ReadAnswer (ask (resetCall account username email urlTemplate))) := by
  unfold requestReset
  by_cases hplaceholder : contains urlTemplate secretPlaceholder = true
  · rw [if_pos hplaceholder, afterAnswer_iff]
    simp [hplaceholder]
  · rw [if_neg hplaceholder]
    simp [hplaceholder]

/-- **A request for a link tells nothing.**  What it is answered depends on the request alone, and
not on what the cloud makes of the account, the user and the address, if and only if the cloud's
answer, where it is asked, can be read. -/
theorem reset_tells_nothing_iff (t : PyText) (ask : HttpCall → Except RequestError HttpResponse)
    (urlTemplate : String) (data : Json) :
    passwordResetRequestPost t ask urlTemplate data = resetAnswer data ↔
      ∀ call, SendsLink urlTemplate data call → ReadAnswer (ask call) := by
  unfold passwordResetRequestPost resetAnswer SendsLink
  cases haccount : textOf data "account" with
  | error err => simp [bind, Except.bind]
  | ok account =>
    cases husername : textOf data "username" with
    | error err => simp [bind, Except.bind]
    | ok username =>
      cases hemail : textOf data "email" with
      | error err => simp [bind, Except.bind]
      | ok email =>
        by_cases hgiven : account ≠ "" ∧ username ≠ "" ∧ email ≠ ""
        · have hsent : passOver resetSent (requestReset t ask account username email urlTemplate) =
            .ok resetSent ↔
              (contains urlTemplate secretPlaceholder = true →
                ReadAnswer (ask (resetCall account username email urlTemplate))) :=
            passOver_eq_ok.trans requestReset_iff
          simp only [bind, Except.bind, if_pos hgiven, pure, Except.pure]
          rw [hsent]
          constructor
          · rintro hread call ⟨_, _, _, ⟨⟩, ⟨⟩, ⟨⟩, -, hplaceholder, rfl⟩
            exact hread hplaceholder
          · exact fun hread hplaceholder =>
              hread _ ⟨account, username, email, rfl, rfl, rfl, hgiven, hplaceholder, rfl⟩
        · simp only [bind, Except.bind, if_neg hgiven, pure, Except.pure, true_iff]
          rintro call ⟨_, _, _, ⟨⟩, ⟨⟩, ⟨⟩, hthese, -⟩
          exact absurd hthese hgiven

end

end OpenCloud
