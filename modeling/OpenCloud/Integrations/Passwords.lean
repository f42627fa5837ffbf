import OpenCloud.Integrations.Auth

/-!
# Passwords at the cloud

A user's password is kept by the cloud.  Who is signed in changes it with the token of the session,
and who is not names the account and the user; a forgotten one is reset by a link that the cloud
sends, the secret of which comes back with the new password.

A refusal is told apart by its description, which is looked for in the body in two places.  `ask` is
what `request` makes of a call: it returns a response, or raises.

## Main results

* `afterAnswer_iff` : the answers for which nothing but a `ZadaraError` is raised.
* `new_password_told_iff` : a new password is taken or refused with a reason the views know, if and
  only if the answer can be read.
-/

namespace OpenCloud

/-- An exception that nothing catches. -/
inductive Crash where
  | python (err : PyError)
  /-- The `OverflowError` of the client. -/
  | overflow
  deriving DecidableEq

/-- How a call about a password fails. -/
inductive PasswordFailure where
  | zadara (err : AuthError)
  | crash (crash : Crash)

/-! ### What is sent -/

/-- `CHANGE_PATH`. -/
def changePath : String := "/api/v2/identity/users/myself/password"

/-- `CHANGE_VIA_AUTH_PATH`. -/
def changeViaAuthPath : String := "/api/v2/identity/auth/password"

/-- `RESET_PATH`. -/
def resetPath : String := "/api/v2/identity/auth/password-reset"

/-- `VERIFY_PATH`. -/
def verifyPath : String := resetPath ++ "/verify"

/-- `SECRET_PLACEHOLDER`. -/
def secretPlaceholder : String := "$secret"

/-- `payload_for`. -/
def payloadFor (identity : Json) (account : String) : Json :=
  .object [("auth", .object [("identity", identity),
    ("scope", .object [("domain", .object [("name", .string account)])])])]

/-- The user of an identity, with the password or the passcode. -/
def namedUser (account username : String) (secret : String × Json) : Json :=
  .object
    [("user", .object [("domain", .object [("name", .string account)]), ("name", .string username),
      secret])]

/-- The identity of a change without a token. -/
def changeIdentity (account username : String) (currentPassword newPassword : Json)
    (totp : Option String) : Json :=
  let password := namedUser account username ("password", currentPassword)
  match totp with
  | none => .object [("methods", .list [.string "password"]), ("new_password", newPassword),
    ("password", password)]
  | some code => .object [("methods", .list [.string "password", .string "totp"]),
    ("new_password", newPassword),
      ("password", password), ("totp", namedUser account username ("passcode", .string code))]

/-- What `change_password` sends. -/
def changeCall (account username : String) (currentPassword newPassword : Json)
    (totp token : Option String) :
    HttpCall :=
  match keep token with
  | some token => ⟨"POST", changePath, some token,
      some (.object [("original_password", currentPassword), ("password", newPassword)]), [], true⟩
  | none => ⟨"POST", changeViaAuthPath, none,
      some (payloadFor (changeIdentity account username currentPassword newPassword (keep totp))
        account), [], true⟩

/-- What `request_reset` sends. -/
def resetCall (account username email urlTemplate : String) : HttpCall :=
  ⟨"POST", resetPath, none,
    some (.object [("domain_name", .string account), ("user_name", .string username),
    ("user_email", .string email), ("url_template", .string urlTemplate)]), [], true⟩

/-- What `verify_reset` sends. -/
def verifyCall (secret : String) (newPassword : Json) : HttpCall :=
  ⟨"POST", verifyPath, none,
    some (.object [("secret", .string secret), ("new_password", newPassword)]), [], true⟩

/-! ### What is read -/

/-- The start of the description of a password that was used before. -/
def passwordReused : String := "Password validation error: The new password cannot be"

section

variable (t : PyText) (c : Casing)

/-- `_description`. -/
def description (resp : HttpResponse) : Except PyError String :=
  match resp.json with
  | none => .ok ""
  | some body =>
    if body.isObject then
      if (body.entry "description").truth then .ok (t.str (body.entry "description"))
      else ((body.entry "error").or .empty).get "message" |>.map fun message =>
        t.str (message.or (.string ""))
    else .ok ""

/-- `_looks_like_policy_violation`. -/
def looksLikePolicyViolation (text : String) : Bool :=
  ["password", "character", "length", "digit", "special"].any (contains (c.lower text))

/-- `_raise_for_new_password`, the description having been read. -/
def newPasswordError (resp : HttpResponse) (text : String) : Option AuthError :=
  if passwordReused.toList <+: text.toList then
    some ⟨⟨"password_reused", "You cannot reuse one of your last passwords"⟩, some 400, []⟩
  else if resp.status = 400 ∧ looksLikePolicyViolation c text = true then
    some ⟨⟨"weak_password", orElse text "The new password was rejected"⟩, some 400, []⟩
  else none

/-- The error of any other status. -/
def statusError (resp : HttpResponse) : AuthError :=
  ⟨⟨"upstream_error", "Zadara returned status " ++ toString resp.status⟩, some resp.status, []⟩

/-- What `change_password` raises for a refusal with this description. -/
def changeError (resp : HttpResponse) (text : String) : AuthError :=
  match newPasswordError c resp text with
  | some err => err
  | none =>
    if resp.status = 401 ∨ resp.status = 403 then
      ⟨⟨"invalid_credentials", "Your current password is not correct"⟩, some resp.status, []⟩
    else if resp.status = 400 then
      ⟨⟨"weak_password", orElse text "The new password was rejected"⟩, some 400, []⟩
    else statusError resp

/-- What `verify_reset` raises for a refusal with this description. -/
def verifyError (resp : HttpResponse) (text : String) : AuthError :=
  match newPasswordError c resp text with
  | some err => err
  | none =>
    if resp.status ∈ [400, 401, 403, 404] then
      ⟨⟨"invalid_reset_link", "This reset link is invalid or has expired"⟩, some resp.status, []⟩
    else statusError resp

/-- What `request_reset` raises for a refusal; the description goes into the log. -/
def resetError (resp : HttpResponse) (_text : String) : AuthError :=
  ⟨⟨"reset_refused", "Zadara refused the reset request"⟩, some resp.status, []⟩

/-- From what became of the call on: an answer that is `ok` ends it, and any other one has its
description read. -/
def afterAnswer (refuse : HttpResponse → String → AuthError)
    (answer : Except RequestError HttpResponse) :
    Except PasswordFailure Unit :=
  match answer with
  | .error (.zadara err _) => .error (.zadara ⟨err, none, []⟩)
  | .error .overflow => .error (.crash .overflow)
  | .ok resp =>
    if resp.Ok then .ok ()
    else
      match description t resp with
      | .error err => .error (.crash (.python err))
      | .ok text => .error (.zadara (refuse resp text))

variable (ask : HttpCall → Except RequestError HttpResponse)

/-- `change_password`. -/
def changePassword (account username : String) (currentPassword newPassword : Json)
    (totp token : Option String) :
    Except PasswordFailure Unit :=
  afterAnswer t (changeError c)
    (ask (changeCall account username currentPassword newPassword totp token))

/-- `request_reset`. -/
def requestReset (account username email urlTemplate : String) : Except PasswordFailure Unit :=
  if contains urlTemplate secretPlaceholder then
    afterAnswer t resetError (ask (resetCall account username email urlTemplate))
  else .error
    (.zadara ⟨⟨"unexpected", "url_template must contain " ++ secretPlaceholder⟩, none, []⟩)

/-- `verify_reset`. -/
def verifyReset (secret : String) (newPassword : Json) : Except PasswordFailure Unit :=
  afterAnswer t (verifyError c) (ask (verifyCall secret newPassword))

end

/-! ### Answers that are read -/

/-- The description is looked for where it can be. -/
def Described (resp : HttpResponse) : Prop :=
  ∀ body, resp.json = some body → body.isObject = true → (body.entry "description").truth = false →
    (body.entry "error").Fields

/-- The call is answered, or fails, in a way that is told apart. -/
def ReadAnswer (answer : Except RequestError HttpResponse) : Prop :=
  answer ≠ .error .overflow ∧ ∀ resp, answer = .ok resp → ¬ resp.Ok → Described resp

/-- What a call about a new password comes to: it is taken exactly if the cloud says so, and
otherwise refused with an error of the client or with one of these codes. -/
structure Told (codes : List String) (answer : Except RequestError HttpResponse)
    (result : Except PasswordFailure Unit) : Prop where
  taken : result = .ok () ↔ ∃ resp, answer = .ok resp ∧ resp.Ok
  caught : ∀ crash, result ≠ .error (.crash crash)
  refused : ∀ err, result = .error (.zadara err) →
    (∃ details, answer = .error (.zadara err.toZadaraError details)) ∨ err.code ∈ codes

/-- What a change is refused for. -/
def changeCodes : List String :=
  ["password_reused", "weak_password", "invalid_credentials", "upstream_error"]

/-- What the end of a reset is refused for. -/
def verifyCodes : List String :=
  ["password_reused", "weak_password", "invalid_reset_link", "upstream_error"]

section

variable {t : PyText} {c : Casing} {resp : HttpResponse} {answer : Except RequestError HttpResponse}
  {text : String} {refuse : HttpResponse → String → AuthError}

theorem description_iff : (∃ text, description t resp = .ok text) ↔ Described resp := by
  unfold description Described
  cases hjson : resp.json with
  | none => simp
  | some body =>
    simp only [Option.some.injEq, forall_eq']
    split_ifs with hobject htruth
    · simp [htruth]
    · have hfields : (∃ message, ((body.entry "error").or .empty).get "message" = .ok message) ↔
          (body.entry "error").Fields :=
        ⟨fun ⟨_, h⟩ => (Json.get_or_empty_eq_ok.1 h).1, fun h => ⟨_, Json.get_or_empty h⟩⟩
      rw [← hfields]
      cases hget : ((body.entry "error").or .empty).get "message" <;>
        simp [Except.map, hobject, Bool.eq_false_iff.2 htruth]
    · simp [hobject]

/-- Nothing but a `ZadaraError` is raised for an answer exactly if the answer is read. -/
theorem afterAnswer_iff : (∀ crash, afterAnswer t refuse answer ≠ .error (.crash crash)) ↔
    ReadAnswer answer := by
  unfold afterAnswer ReadAnswer
  cases answer with
  | error err => cases err <;> simp
  | ok resp =>
    by_cases hok : resp.Ok
    · simp [hok]
    · have hread : (∃ text, description t resp = .ok text) ↔ Described resp := description_iff
      cases hdescription : description t resp with
      | ok text => simp [hok, ← hread, hdescription]
      | error err => simp [hok, ← hread, hdescription]

/-- What an answer comes to. -/
theorem afterAnswer_eq_zadara {err : AuthError}
    (h : afterAnswer t refuse answer = .error (.zadara err)) :
    (∃ details, answer = .error (.zadara err.toZadaraError details)) ∨
      ∃ resp text, answer = .ok resp ∧ ¬ resp.Ok ∧ description t resp = .ok text ∧
        err = refuse resp text := by
  unfold afterAnswer at h
  cases answer with
  | error failure =>
    cases failure with
    | zadara err' details =>
      cases h
      exact .inl ⟨details, rfl⟩
    | overflow => cases h
  | ok resp =>
    dsimp only at h
    split_ifs at h with hok
    cases hdescription : description t resp with
    | error err' =>
      rw [hdescription] at h
      cases h
    | ok text =>
      rw [hdescription] at h
      cases h
      exact .inr ⟨resp, text, rfl, hok, hdescription, rfl⟩

theorem afterAnswer_eq_ok : afterAnswer t refuse answer = .ok () ↔
    ∃ resp, answer = .ok resp ∧ resp.Ok := by
  unfold afterAnswer
  cases answer with
  | error err => cases err <;> simp
  | ok resp =>
    by_cases hok : resp.Ok
    · simp [hok]
    · cases hdescription : description t resp <;> simp [hok, hdescription]

theorem code_newPasswordError {err : AuthError} (h : newPasswordError c resp text = some err) :
    err.code = "password_reused" ∨ err.code = "weak_password" := by
  unfold newPasswordError at h
  split_ifs at h
  · cases h
    exact .inl rfl
  · cases h
    exact .inr rfl

theorem code_changeError : (changeError c resp text).code ∈ changeCodes := by
  unfold changeError changeCodes
  cases hnew : newPasswordError c resp text with
  | some err => rcases code_newPasswordError hnew with hcode | hcode <;> simp [hcode]
  | none =>
    dsimp only
    split_ifs <;> simp [statusError]

theorem code_verifyError : (verifyError c resp text).code ∈ verifyCodes := by
  unfold verifyError verifyCodes
  cases hnew : newPasswordError c resp text with
  | some err => rcases code_newPasswordError hnew with hcode | hcode <;> simp [hcode]
  | none =>
    dsimp only
    split_ifs <;> simp [statusError]

theorem told_iff {codes : List String} (hcodes : ∀ resp text, (refuse resp text).code ∈ codes) :
    Told codes answer (afterAnswer t refuse answer) ↔ ReadAnswer answer := by
  refine Iff.trans (b := ∀ crash, afterAnswer t refuse answer ≠ .error (.crash crash)) ?_
    afterAnswer_iff
  refine ⟨Told.caught, fun hcaught => ⟨afterAnswer_eq_ok, hcaught, fun err herr => ?_⟩⟩
  rcases afterAnswer_eq_zadara herr with hclient | ⟨resp, text, -, -, -, rfl⟩
  · exact .inl hclient
  · exact .inr (hcodes resp text)

end

/-- **A new password is taken, or refused for a reason that is known.**  Whatever the cloud answers
to a change, or to the end of a reset, nothing but a `ZadaraError` is raised, under one of the codes
that the views know, if and only if the answer can be read. -/
theorem new_password_told_iff (t : PyText) (c : Casing)
    (ask : HttpCall → Except RequestError HttpResponse) (account username secret : String)
    (currentPassword newPassword : Json) (totp token : Option String) :
    (Told changeCodes (ask (changeCall account username currentPassword newPassword totp token))
        (changePassword t c ask account username currentPassword newPassword totp token) ↔
      ReadAnswer (ask (changeCall account username currentPassword newPassword totp token))) ∧
    (Told verifyCodes (ask (verifyCall secret newPassword))
      (verifyReset t c ask secret newPassword) ↔
      ReadAnswer (ask (verifyCall secret newPassword))) :=
  ⟨told_iff fun _ _ => code_changeError, told_iff fun _ _ => code_verifyError⟩

end OpenCloud
