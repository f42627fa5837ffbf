import OpenCloud.Common.Exceptions
import OpenCloud.Integrations.Http
import OpenCloud.Integrations.Listings

/-!
# Sign-in at the cloud

`authenticate` asks for a token of the project, and after a 401 for one of the domain.  A refusal
may ask for a second factor or, where no passcode was sent, hand out a new secret; five helpers look
for these in the body, each with a shape of its own in mind.  What `request` itself raises passes
through and is left out.

## Main results

* `parseAuthBody_iff` : the bodies of granted tokens that are read.
* `checkMfa_cases` : what a refusal comes to.
* `survives_iff` : signing in survives the answers if and only if they are readable.
-/

namespace OpenCloud

/-- What `str` makes of a value. -/
structure PyText where
  str : Json → String
  str_string : ∀ s, str (.string s) = s

/-- A `ZadaraError` with all it carries. -/
structure AuthError extends ZadaraError where
  status : Option ℕ
  details : List (String × Json)

/-- How signing in fails. -/
inductive AuthFailure where
  | zadara (err : AuthError)
  /-- An exception of another class. -/
  | python (err : PyError)

/-- What a body says of a token, with its values as they are. -/
structure ParsedBody where
  userId : String
  userName : String
  email : Json
  accountId : Option String
  accountName : String
  projectId : Option String
  projectName : Option String
  roles : List Json
  expiresAt : Json

/-- `AuthResult`. -/
structure GrantedToken extends ParsedBody where
  token : String
  scope : String

/-! ### What is sent -/

/-- The user of an identity. -/
def authUser (account username : String) (secret : String × String) : Json :=
  .object
    [("user", .object [("domain", .object [("name", .string account)]), ("name", .string username),
    (secret.1, .string secret.2)])]

/-- `_password_identity`. -/
def passwordIdentity (account username password : String) (totp : Option String) : Json :=
  match keep totp with
  | none => .object [("methods", .list [.string "password"]),
      ("password", authUser account username ("password", password))]
  | some passcode => .object [("methods", .list [.string "password", .string "totp"]),
      ("password", authUser account username ("password", password)),
      ("totp", authUser account username ("passcode", passcode))]

/-- `_auth_payload`. -/
def authPayload (identity scope : Json) (enroll : Bool) : Json :=
  .object [("auth", .object ([("scope", scope), ("identity", identity)] ++
    if enroll then [("auto_enable_mfa", .bool true)] else []))]

/-- What is signed in with. -/
structure Credentials where
  account : String
  username : String
  password : String
  project : Option String
  totp : Option String

/-- The request for a token of the project. -/
def Credentials.projectPayload (cred : Credentials) : Json :=
  let projectName := orElse (strip (cred.project.getD "")) cred.account
  authPayload (passwordIdentity cred.account cred.username cred.password cred.totp)
    (.object
      [("project", .object [("name", .string projectName),
        ("domain", .object [("name", .string cred.account)])])])
    !truthy cred.totp

/-- The request for a token of the domain. -/
def Credentials.domainPayload (cred : Credentials) : Json :=
  authPayload (passwordIdentity cred.account cred.username cred.password cred.totp)
    (.object [("domain", .object [("name", .string cred.account)])]) !truthy cred.totp

/-! ### What is read -/

/-- `_is_mfa_required`. -/
def isMfaRequired (resp : HttpResponse) : Except PyError Bool :=
  if truthy (resp.headers "openstack-auth-receipt") then .ok true
  else
    match resp.json with
    | none => .ok false
    | some body => do
      let receipt ← body.get "receipt"
      let methods ← body.get "required_auth_methods"
      return (receipt.or methods).truth

/-- `_mfa_error`. -/
def mfaError (resp : HttpResponse) : Except PyError AuthError := do
  let details := match keep (resp.headers "openstack-auth-receipt") with
    | some receipt => [("receipt", .string receipt)]
    | none => []
  let receipt ← ((resp.json.getD .empty).or .empty).get "receipt"
  let expiresAt ← (receipt.or .empty).get "expires_at"
  let details := if expiresAt.truth then details ++ [("expiresAt", expiresAt)] else details
  return ⟨⟨"mfa_required", "A one-time MFA code is required"⟩, some 401, details⟩

/-- A digit of a percent code. -/
def hexDigit (n : ℕ) : Char := "0123456789ABCDEF".toList.getD n '0'

/-- `urllib.parse.quote`. -/
def quote (s : String) : String :=
  String.ofList (s.toList.flatMap fun ch =>
    if ch.isAlphanum ∨ ch ∈ ['_', '.', '-', '~', '/'] then [ch]
    else (String.utf8EncodeChar ch).flatMap fun byte =>
      ['%', hexDigit (byte.toNat / 16), hexDigit (byte.toNat % 16)])

/-- `_enrollment_error`. -/
def enrollmentError (secret account username : String) : AuthError :=
  let label := quote (account ++ ":" ++ username)
  let issuer := quote account
  let uri := "otpauth://totp/" ++ label ++ "?secret=" ++ secret ++ "&issuer=" ++ issuer ++
    "&algorithm=SHA1&digits=6&period=30"
  ⟨⟨"mfa_enrollment_required",
    "Multi-factor authentication is required: register your authenticator app"⟩, some 401,
    [("secret", .string secret), ("otpauthUri", .string uri)]⟩

/-- The name of a role: of an object its `name`, of anything else itself. -/
def roleName (role : Json) : Json := if role.isObject then role.entry "name" else role

section

variable (t : PyText)

/-- `_enrollment_secret`. -/
def enrollmentSecret (resp : HttpResponse) : Except PyError (Option String) :=
  match resp.json with
  | none => .ok none
  | some body => do
    let secret ← (body.or .empty).get "mfa_secret"
    return if secret.truth then some (t.str secret) else none

/-- A value as a text, if it is not false. -/
def strOf (x : Json) : Option String := if x.truth then some (t.str x) else none

/-- The domain of `_parse_auth_body`. -/
def firstDomain (granted project user : Json) : Except PyError Json := do
  let ofToken ← granted.get "domain"
  if ofToken.truth then .ok ofToken
  else
    let ofProject ← (project.or .empty).get "domain"
    if ofProject.truth then .ok ofProject else user.get "domain"

/-- The id and the name of a project, if there is one. -/
def projectTexts (project : Json) : Except PyError (Option String × Option String) :=
  if project.truth then do
    let id ← project.get "id"
    let name ← project.get "name"
    return (strOf t id, strOf t name)
  else .ok (none, none)

/-- `_parse_auth_body`. -/
def parseAuthBody (body : Json) (fallbackAccount : String) : Except PyError ParsedBody := do
  let granted ← (body.or .empty).get "token"
  let user ← (granted.or .empty).get "user"
  let project ← (granted.or .empty).get "project"
  let domain ← firstDomain (granted.or .empty) project (user.or .empty)
  let roles ← (granted.or .empty).get "roles"
  let roles ← (roles.or (.list [])).iterate
  let userId ← (user.or .empty).get "id"
  let userName ← (user.or .empty).get "name"
  let email ← (user.or .empty).get "email"
  let accountId ← (domain.or .empty).get "id"
  let accountName ← (domain.or .empty).get "name"
  let (projectId, projectName) ← projectTexts t project
  let expiresAt ← (granted.or .empty).get "expires_at"
  return {
    userId := t.str ((userId.or userName).or (.string ""))
    userName := t.str (userName.or (.string ""))
    email := email
    accountId := strOf t accountId
    accountName := t.str (accountName.or (.string fallbackAccount))
    projectId := projectId
    projectName := projectName
    roles := (roles.map roleName).filter Json.truth
    expiresAt := expiresAt }

/-- `_to_result`. -/
def toResult (resp : HttpResponse) (scope account : String) : Except AuthFailure GrantedToken :=
  match keep (resp.headers "x-subject-token") with
  | none => .error (.zadara ⟨⟨"unexpected", "Zadara did not return an auth token"⟩, none, []⟩)
  | some token => ((parseAuthBody t (resp.json.getD .null) account).map fun parsed =>
      { parsed with token := token, scope := scope }).mapError .python

/-- `_error_message`. -/
def errorMessage (resp : HttpResponse) : String :=
  match resp.json with
  | none => ""
  | some body =>
    if body.isObject then
      let error := body.entry "error"
      if error.isObject then t.str ((error.entry "message").or (.string ""))
      else t.str (((body.entry "description").or (body.entry "message")).or (.string ""))
    else ""

/-- `_raise_for_auth_status`. -/
def raiseForAuthStatus (resp : HttpResponse) : AuthError :=
  let message := (errorMessage t resp).toList
  if "The password is expired".toList <+: message then
    ⟨⟨"password_expired", "Your password has expired and must be changed"⟩, some 401, []⟩
  else if "The account is locked for user".toList <+: message then
    ⟨⟨"account_locked", "This account is locked. Contact your administrator."⟩, some 403, []⟩
  else if resp.status = 401 ∨ resp.status = 403 then
    ⟨⟨"invalid_credentials", "Invalid account, username or password"⟩, some resp.status, []⟩
  else if resp.status = 404 then ⟨⟨"account_not_found", "Account not found"⟩, some resp.status, []⟩
  else if resp.status = 429 then
    ⟨⟨"rate_limited", "Too many login attempts, please try again later"⟩, some resp.status, []⟩
  else
    ⟨⟨"upstream_error", "Zadara returned an unexpected status (" ++ toString resp.status ++ ")"⟩,
      some resp.status, []⟩

/-- `if not totp and _is_mfa_required(resp): raise _mfa_error(resp)`. -/
def checkMfa (totp : Option String) (resp : HttpResponse) : Except AuthFailure Unit :=
  if truthy totp then .ok ()
  else do
    let required ← (isMfaRequired resp).mapError .python
    if required then
      let err ← (mfaError resp).mapError .python
      throw (.zadara err)

/-- `_enrollment_secret(dresp) if not totp else None`. -/
def newSecret (totp : Option String) (resp : HttpResponse) : Except AuthFailure (Option String) :=
  if truthy totp then .ok none else (enrollmentSecret t resp).mapError .python

/-- `authenticate`, from the answer for a token of the domain on. -/
def domainAnswer (cred : Credentials) (dresp : HttpResponse) : Except AuthFailure GrantedToken :=
  if dresp.Ok then toResult t dresp "domain" cred.account
  else do
    checkMfa cred.totp dresp
    let secret ← newSecret t cred.totp dresp
    match keep secret with
    | some secret => throw (.zadara (enrollmentError secret cred.account cred.username))
    | none => throw (.zadara (raiseForAuthStatus t dresp))

/-- `authenticate`; `respond` answers a POST of the payload. -/
def authenticate (respond : Json → HttpResponse) (cred : Credentials) :
    Except AuthFailure GrantedToken :=
  if cred.account = "" ∨ cred.username = "" ∨ cred.password = "" then
    .error
      (.zadara ⟨⟨"invalid_credentials", "Account, username and password are required"⟩, none, []⟩)
  else
    let resp := respond cred.projectPayload
    if resp.Ok then toResult t resp "project" cred.account
    else do
      checkMfa cred.totp resp
      -- a 401 usually says that there is no such project
      if resp.status = 401 then domainAnswer t cred (respond cred.domainPayload)
      else throw (.zadara (raiseForAuthStatus t resp))

end

/-! ### The bodies that are read -/

/-- The domain of a granted token: its own, that of its project, or that of its user. -/
def grantDomain (granted : Json) : Json :=
  if (granted.entry "domain").truth then granted.entry "domain"
  else if ((granted.entry "project").entry "domain").truth then
    (granted.entry "project").entry "domain"
  else (granted.entry "user").entry "domain"

/-- The body of a granted token has objects, or nothing, where objects are looked into. -/
structure GrantReadable (body : Json) : Prop where
  fields : body.Fields
  token : (body.entry "token").Fields
  user : ((body.entry "token").entry "user").Fields
  project : ((body.entry "token").entry "project").Fields
  domain : (grantDomain (body.entry "token")).Fields
  roles : ((body.entry "token").entry "roles").Iterable

section

variable {t : PyText} {body : Json} {scope account : String} {resp : HttpResponse}

theorem firstDomain_eq {granted : Json} (hgranted : granted.Fields)
    (hproject : (granted.entry "project").Fields) (huser : (granted.entry "user").Fields) :
    firstDomain (granted.or .empty) (granted.entry "project") ((granted.entry "user").or .empty) =
      .ok (grantDomain granted) := by
  unfold firstDomain grantDomain
  rw [Json.get_or_empty hgranted, Json.get_or_empty hproject, Json.get_or_empty huser]
  simp only [bind, Except.bind]
  split_ifs <;> rfl

theorem projectTexts_iff {project : Json} : (∃ texts, projectTexts t project = .ok texts) ↔
    project.Fields := by
  unfold projectTexts Json.Fields
  cases htruth : project.truth with
  | false => simp
  | true => cases project <;> simp [Json.get, Json.isObject, bind, Except.bind, pure, Except.pure]

theorem parseAuthBody_iff : (∃ granted, parseAuthBody t body account = .ok granted) ↔
    GrantReadable body := by
  constructor
  · rintro ⟨result, h⟩
    obtain ⟨granted, hgranted, h⟩ := exists_of_bind_eq_ok h
    obtain ⟨user, huser, h⟩ := exists_of_bind_eq_ok h
    obtain ⟨project, hproject, h⟩ := exists_of_bind_eq_ok h
    obtain ⟨domain, hdomain, h⟩ := exists_of_bind_eq_ok h
    obtain ⟨roles, hroles, h⟩ := exists_of_bind_eq_ok h
    obtain ⟨items, hitems, h⟩ := exists_of_bind_eq_ok h
    obtain ⟨userId, huserId, h⟩ := exists_of_bind_eq_ok h
    obtain ⟨userName, -, h⟩ := exists_of_bind_eq_ok h
    obtain ⟨email, -, h⟩ := exists_of_bind_eq_ok h
    obtain ⟨accountId, haccountId, h⟩ := exists_of_bind_eq_ok h
    obtain ⟨accountName, -, h⟩ := exists_of_bind_eq_ok h
    obtain ⟨texts, htexts, h⟩ := exists_of_bind_eq_ok h
    obtain ⟨hfields, rfl⟩ := Json.get_or_empty_eq_ok.1 hgranted
    obtain ⟨htoken, rfl⟩ := Json.get_or_empty_eq_ok.1 huser
    obtain ⟨-, rfl⟩ := Json.get_or_empty_eq_ok.1 hproject
    obtain ⟨-, rfl⟩ := Json.get_or_empty_eq_ok.1 hroles
    have huserFields := (Json.get_or_empty_eq_ok.1 huserId).1
    have hprojectFields := projectTexts_iff.1 ⟨texts, htexts⟩
    rw [firstDomain_eq htoken hprojectFields huserFields] at hdomain
    obtain rfl := Except.ok.inj hdomain
    exact ⟨hfields, htoken, huserFields, hprojectFields, (Json.get_or_empty_eq_ok.1 haccountId).1,
      Json.iterate_iff.1 ⟨items, hitems⟩⟩
  · rintro ⟨hfields, htoken, huser, hproject, hdomain, hroles⟩
    obtain ⟨items, hitems⟩ := Json.iterate_iff.2 hroles
    obtain ⟨texts, htexts⟩ := projectTexts_iff (t := t).2 hproject
    unfold parseAuthBody
    simp only [Json.get_or_empty hfields, Json.get_or_empty htoken, Json.get_or_empty huser,
      firstDomain_eq htoken hproject huser, Json.get_or_empty hdomain, hitems, htexts, bind,
        Except.bind]
    exact ⟨_, rfl⟩

/-- A response that grants a token, if it has one, has a body that is read. -/
def ReadableGrant (resp : HttpResponse) : Prop :=
  keep (resp.headers "x-subject-token") = none ∨ GrantReadable (resp.json.getD .null)

/-- A refusal without a body that is JSON, or with one in which a receipt can be looked for. -/
def ReadableRefusal (resp : HttpResponse) : Prop :=
  ∀ body, resp.json = some body → (body.entry "receipt").Fields ∧
    if truthy (resp.headers "openstack-auth-receipt") then body.Fields else body.isObject = true

/-- A refusal that asks for a second factor. -/
def AsksForMfa (resp : HttpResponse) : Prop :=
  truthy (resp.headers "openstack-auth-receipt") = true ∨
    ∃ body, resp.json = some body ∧
      ((body.entry "receipt").or (body.entry "required_auth_methods")).truth = true

/-- A refusal can be read: with a passcode it is not looked into. -/
def RefusalRead (totp : Option String) (resp : HttpResponse) : Prop :=
  truthy totp = true ∨ ReadableRefusal resp

/-- A refusal does not make signing in ask for a second factor. -/
def GoesOn (totp : Option String) (resp : HttpResponse) : Prop :=
  truthy totp = true ∨ ¬ AsksForMfa resp

/-- A token is granted by the header. -/
theorem toResult_eq_ok {granted : GrantedToken} (h : toResult t resp scope account = .ok granted) :
    keep (resp.headers "x-subject-token") = some granted.token := by
  unfold toResult at h
  cases htoken : keep (resp.headers "x-subject-token") with
  | none =>
    rw [htoken] at h
    cases h
  | some token =>
    rw [htoken] at h
    cases hparse : parseAuthBody t (resp.json.getD .null) account with
    | error err =>
      rw [hparse] at h
      cases h
    | ok parsed =>
      rw [hparse] at h
      cases h
      rfl

theorem toResult_ne_python : (∀ err, toResult t resp scope account ≠ .error (.python err)) ↔
    ReadableGrant resp := by
  unfold toResult ReadableGrant
  cases htoken : keep (resp.headers "x-subject-token") with
  | none => simp
  | some token =>
    have hread : (∃ granted, parseAuthBody t (resp.json.getD .null) account = .ok granted) ↔
        GrantReadable (resp.json.getD .null) := parseAuthBody_iff
    simp only [reduceCtorEq, false_or, ← hread]
    cases hparse : parseAuthBody t (resp.json.getD .null) account with
    | ok granted => simp [Except.mapError, Except.map]
    | error err => simp [Except.mapError, Except.map]

/-- What `toResult` raises itself. -/
theorem toResult_code {err : AuthError} (h : toResult t resp scope account = .error (.zadara err)) :
    err.code = "unexpected" := by
  unfold toResult at h
  cases htoken : keep (resp.headers "x-subject-token") with
  | none =>
    rw [htoken] at h
    cases h
    rfl
  | some token =>
    rw [htoken] at h
    cases hparse : parseAuthBody t (resp.json.getD .null) account with
    | error err =>
      rw [hparse] at h
      cases h
    | ok parsed =>
      rw [hparse] at h
      cases h

/-- The error that asks for a second factor is made where a receipt can be looked for. -/
theorem mfaError_cases (resp : HttpResponse) :
    (((resp.json.getD .empty).Fields ∧ ((resp.json.getD .empty).entry "receipt").Fields) ∧
      ∃ err, mfaError resp = .ok err ∧ err.code = "mfa_required") ∨
    (¬ ((resp.json.getD .empty).Fields ∧ ((resp.json.getD .empty).entry "receipt").Fields) ∧
      ∃ err, mfaError resp = .error err) := by
  unfold mfaError
  generalize resp.json.getD .empty = body
  cases hreceipt : (body.or .empty).get "receipt" with
  | error err =>
    refine .inr ⟨fun h => ?_, err, rfl⟩
    rw [Json.get_or_empty h.1] at hreceipt
    cases hreceipt
  | ok receipt =>
    obtain ⟨hfields, rfl⟩ := Json.get_or_empty_eq_ok.1 hreceipt
    cases hexpires : ((body.entry "receipt").or .empty).get "expires_at" with
    | error err =>
      refine .inr ⟨fun h => ?_, err, by simp only [bind, Except.bind, hexpires]⟩
      rw [Json.get_or_empty h.2] at hexpires
      cases hexpires
    | ok expiresAt =>
      refine .inl ⟨⟨hfields, (Json.get_or_empty_eq_ok.1 hexpires).1⟩, ?_⟩
      simp only [bind, Except.bind, hexpires]
      exact ⟨_, rfl, rfl⟩

/-- Whether a refusal asks for a second factor is known of a body that is an object. -/
theorem isMfaRequired_eq_ok {required : Bool} (h : isMfaRequired resp = .ok required) :
    (required = true ↔ AsksForMfa resp) ∧ (truthy (resp.headers "openstack-auth-receipt") = true ∨
      ∀ body, resp.json = some body → body.isObject = true) := by
  unfold isMfaRequired at h
  unfold AsksForMfa
  cases hheader : truthy (resp.headers "openstack-auth-receipt") with
  | true =>
    rw [hheader] at h
    cases h
    exact ⟨by simp, .inl rfl⟩
  | false =>
    rw [hheader] at h
    cases hjson : resp.json with
    | none =>
      rw [hjson] at h
      cases h
      exact ⟨by simp, .inr fun _ hbody => nomatch hbody⟩
    | some body =>
      rw [hjson] at h
      cases body with
      | object fields =>
        cases h
        exact ⟨by simp [Json.entry], .inr fun _ hbody => by cases hbody; rfl⟩
      | _ => cases h

theorem isMfaRequired_of_readable (h : ReadableRefusal resp) :
    ∃ required, isMfaRequired resp = .ok required := by
  unfold isMfaRequired
  cases hheader : truthy (resp.headers "openstack-auth-receipt") with
  | true => exact ⟨true, rfl⟩
  | false =>
    cases hjson : resp.json with
    | none => exact ⟨false, rfl⟩
    | some body =>
      have hobject := (h body hjson).2
      rw [hheader] at hobject
      cases body with
      | object fields => exact ⟨_, rfl⟩
      | _ => cases hobject

/-- A refusal is readable exactly where a receipt can be looked for in it. -/
theorem readableRefusal_iff (hobject : truthy (resp.headers "openstack-auth-receipt") = true ∨
    ∀ body, resp.json = some body → body.isObject = true) : ReadableRefusal resp ↔
      (resp.json.getD .empty).Fields ∧ ((resp.json.getD .empty).entry "receipt").Fields := by
  cases hjson : resp.json with
  | none =>
    refine iff_of_true (fun body hbody => ?_) (by decide)
    rw [hjson] at hbody
    cases hbody
  | some body =>
    rw [Option.getD_some]
    constructor
    · intro h
      obtain ⟨hreceipt, hbody⟩ := h body hjson
      split_ifs at hbody
      · exact ⟨hbody, hreceipt⟩
      · exact ⟨.inr hbody, hreceipt⟩
    · rintro ⟨hbody, hreceipt⟩ body' hbody'
      obtain rfl := Option.some.inj (hjson.symm.trans hbody')
      refine ⟨hreceipt, ?_⟩
      split_ifs with hheader
      · exact hbody
      · exact (hobject.resolve_left hheader) body hjson

/-- What a refusal comes to: it is not read, asks for a second factor, or signing in goes on. -/
theorem checkMfa_cases (totp : Option String) (resp : HttpResponse) :
    (¬ RefusalRead totp resp ∧ ∃ err, checkMfa totp resp = .error (.python err)) ∨
    (RefusalRead totp resp ∧ ¬ GoesOn totp resp ∧
      ∃ err, checkMfa totp resp = .error (.zadara err) ∧ err.code = "mfa_required") ∨
    (RefusalRead totp resp ∧ GoesOn totp resp ∧ checkMfa totp resp = .ok ()) := by
  have hread : truthy totp = false → (RefusalRead totp resp ↔ ReadableRefusal resp) := fun h => by
    simp [RefusalRead, h]
  have hgoes : truthy totp = false → (GoesOn totp resp ↔ ¬ AsksForMfa resp) := fun h => by
    simp [GoesOn, h]
  unfold checkMfa
  cases htotp : truthy totp with
  | true => exact .inr (.inr ⟨.inl htotp, .inl htotp, rfl⟩)
  | false =>
  rw [hread htotp, hgoes htotp]
  cases hrequired : isMfaRequired resp with
  | error err =>
    refine .inl ⟨fun h => ?_, err, rfl⟩
    obtain ⟨required, hok⟩ := isMfaRequired_of_readable h
    rw [hrequired] at hok
    cases hok
  | ok required =>
  obtain ⟨hasks, hobject⟩ := isMfaRequired_eq_ok hrequired
  have hreadable := readableRefusal_iff hobject
  cases required with
  | true =>
    rcases mfaError_cases resp with ⟨hfields, err, herr, hcode⟩ | ⟨hfields, err, herr⟩
    · refine .inr (.inl ⟨hreadable.2 hfields, not_not_intro (hasks.1 rfl), err, ?_, hcode⟩)
      simp [Except.mapError, bind, Except.bind, herr, throw, throwThe, MonadExceptOf.throw]
    · refine .inl ⟨fun h => hfields (hreadable.1 h), err, ?_⟩
      simp [Except.mapError, bind, Except.bind, herr]
  | false =>
    have hnot : ¬ AsksForMfa resp := fun h => Bool.false_ne_true (hasks.2 h)
    have hheader : ¬ truthy (resp.headers "openstack-auth-receipt") = true := fun h => hnot (.inl h)
    refine .inr (.inr ⟨hreadable.2 ?_, hnot, rfl⟩)
    cases hjson : resp.json with
    | none => decide
    | some body =>
      have hreceipt : (body.entry "receipt").truth = false := by
        by_contra htruth
        rw [Bool.not_eq_false] at htruth
        exact hnot (.inr ⟨body, hjson, by rw [Json.or, if_pos htruth, htruth]⟩)
      exact ⟨.inr ((hobject.resolve_left hheader) body hjson), .inl hreceipt⟩

end

/-! ### Signing in -/

/-- The response can be read where it has to be. -/
def Readable (totp : Option String) (resp : HttpResponse) : Prop :=
  if resp.Ok then ReadableGrant resp else RefusalRead totp resp

/-- After the response the token of the domain is asked for. -/
def AsksAgain (totp : Option String) (resp : HttpResponse) : Prop :=
  ¬ resp.Ok ∧ resp.status = 401 ∧ GoesOn totp resp

/-- None of the three is missing. -/
def Credentials.Complete (cred : Credentials) : Prop :=
  ¬ (cred.account = "" ∨ cred.username = "" ∨ cred.password = "")

section

variable (t : PyText) (respond : Json → HttpResponse) (cred : Credentials)

/-- The payloads that are sent. -/
def Sent (payload : Json) : Prop :=
  cred.Complete ∧ (payload = cred.projectPayload ∨
    (payload = cred.domainPayload ∧ AsksAgain cred.totp (respond cred.projectPayload)))

/-- The last response hands out the secret. -/
def HandsOut (secret : Json) : Prop :=
  truthy cred.totp = false ∧ Sent respond cred cred.domainPayload ∧
    ∃ body, (respond cred.domainPayload).json = some body ∧ secret = body.entry "mfa_secret" ∧
      secret.truth = true

/-- Signing in answers with a token the cloud granted, or a `ZadaraError`; a new secret is that of
the last response. -/
structure Survives : Prop where
  answers : ∀ err, authenticate t respond cred ≠ .error (.python err)
  granted : ∀ granted, authenticate t respond cred = .ok granted →
    ∃ payload, Sent respond cred payload ∧
    (respond payload).Ok ∧ keep ((respond payload).headers "x-subject-token") = some granted.token
  enrolls : ∀ err, authenticate t respond cred = .error (.zadara err) →
    err.code = "mfa_enrollment_required" →
    ∃ secret, HandsOut respond cred secret ∧ ("secret", .string (t.str secret)) ∈ err.details

/-- The ways signing in can go. -/
inductive SignsIn : Except AuthFailure GrantedToken → Prop
  | incomplete {err : AuthError} (missing : ¬ cred.Complete)
    (other : err.code ≠ "mfa_enrollment_required") :
      SignsIn (.error (.zadara err))
  | granted {payload : Json} {scope : String} (sent : Sent respond cred payload)
    (ok : (respond payload).Ok)
      (before : ∀ payload', Sent respond cred payload' →
        payload' = payload ∨ Readable cred.totp (respond payload')) :
      SignsIn (toResult t (respond payload) scope cred.account)
  | unread {payload : Json} {err : PyError} (sent : Sent respond cred payload)
      (unreadable : ¬ Readable cred.totp (respond payload)) : SignsIn (.error (.python err))
  | refused {err : AuthError} (read : ∀ payload, Sent respond cred payload →
    Readable cred.totp (respond payload))
      (enrolls : err.code = "mfa_enrollment_required" →
        ∃ secret, HandsOut respond cred secret ∧ ("secret", .string (t.str secret)) ∈ err.details) :
      SignsIn (.error (.zadara err))

end

section

variable {t : PyText} {respond : Json → HttpResponse} {cred : Credentials} {resp : HttpResponse}

theorem raiseForAuthStatus_code : (raiseForAuthStatus t resp).code ≠ "mfa_enrollment_required" := by
  unfold raiseForAuthStatus
  dsimp only
  split_ifs <;> simp

theorem readable_of_ok (hok : resp.Ok) {totp : Option String} : Readable totp resp ↔
    ReadableGrant resp := by
  rw [Readable, if_pos hok]

theorem readable_of_refused (hok : ¬ resp.Ok) (totp : Option String) : Readable totp resp ↔
    RefusalRead totp resp := by
  rw [Readable, if_neg hok]

/-- A secret is looked for where no passcode was sent, in an object. -/
theorem newSecret_cases {totp : Option String} (hread : RefusalRead totp resp)
    (hgoes : GoesOn totp resp) :
    newSecret t totp resp = .ok none ∨ (truthy totp = false ∧ ∃ body, resp.json = some body ∧
      (body.entry "mfa_secret").truth = true ∧ newSecret t totp resp =
        .ok (some (t.str (body.entry "mfa_secret")))) := by
  unfold newSecret
  cases htotp : truthy totp with
  | true => exact .inl rfl
  | false =>
  have hrefusal : ReadableRefusal resp := hread.resolve_left (by simp [htotp])
  have hasks : ¬ AsksForMfa resp := hgoes.resolve_left (by simp [htotp])
  have hheader : ¬ truthy (resp.headers "openstack-auth-receipt") = true := fun h => hasks (.inl h)
  unfold enrollmentSecret
  cases hjson : resp.json with
  | none => exact .inl rfl
  | some body =>
    have hobject := (hrefusal body hjson).2
    rw [if_neg hheader] at hobject
    have hget : (body.or Json.empty).get "mfa_secret" = .ok (body.entry "mfa_secret") :=
      Json.get_or_empty (Or.inr hobject)
    cases htruth : (body.entry "mfa_secret").truth with
    | true =>
      refine .inr ⟨rfl, body, rfl, htruth, ?_⟩
      simp [bind, Except.bind, hget, htruth, pure, Except.pure, Except.mapError]
    | false =>
      refine .inl ?_
      simp [bind, Except.bind, hget, htruth, pure, Except.pure, Except.mapError]

/-- The answer for a token of the domain, after a first one that was read. -/
theorem signsIn_domain (hfirst : Readable cred.totp (respond cred.projectPayload))
    (hsecond : Sent respond cred cred.domainPayload) :
    SignsIn t respond cred (domainAnswer t cred (respond cred.domainPayload)) := by
  have hsent : ∀ payload, Sent respond cred payload → payload = cred.projectPayload ∨
    payload = cred.domainPayload :=
    fun _ h => h.2.imp_right And.left
  unfold domainAnswer
  by_cases hok : (respond cred.domainPayload).Ok
  · rw [if_pos hok]
    refine .granted hsecond hok fun payload h => ?_
    rcases hsent payload h with rfl | rfl
    · exact .inr hfirst
    · exact .inl rfl
  rw [if_neg hok]
  have hread := readable_of_refused hok cred.totp
  -- a refusal is told where every answer on the way to it can be read
  have hall : RefusalRead cred.totp (respond cred.domainPayload) →
      ∀ payload, Sent respond cred payload → Readable cred.totp (respond payload) := by
    intro hrefusal payload h
    rcases hsent payload h with rfl | rfl
    · exact hfirst
    · exact hread.2 hrefusal
  rcases checkMfa_cases cred.totp (respond cred.domainPayload) with
    ⟨hunread, err, hcheck⟩ | ⟨hrefusal, -, err, hcheck, hcode⟩ | ⟨hrefusal, hgoes, hcheck⟩
  · rw [hcheck]
    exact .unread hsecond fun h => hunread (hread.1 h)
  · rw [hcheck]
    exact .refused (hall hrefusal) fun henroll => absurd (hcode.symm.trans henroll) (by decide)
  · rw [hcheck]
    rcases newSecret_cases (t := t) hrefusal hgoes with
      hsecret | ⟨htotp, body, hbody, htruth, hsecret⟩
    · simp only [bind, Except.bind, hsecret]
      exact .refused (hall hrefusal) fun henroll => absurd henroll raiseForAuthStatus_code
    · simp only [bind, Except.bind, hsecret]
      cases hkeep : keep (some (t.str (body.entry "mfa_secret"))) with
      | none => exact .refused (hall hrefusal) fun henroll => absurd henroll raiseForAuthStatus_code
      | some secret =>
        have hsame : secret = t.str (body.entry "mfa_secret") := by
          unfold keep at hkeep
          split_ifs at hkeep
          exact (Option.some.inj hkeep).symm
        refine .refused (hall hrefusal) fun _ => ⟨_, ⟨htotp, hsecond, body, hbody, rfl, htruth⟩, ?_⟩
        rw [← hsame]
        exact List.mem_cons_self

/-- Signing in goes one of these ways. -/
theorem signsIn (t : PyText) (respond : Json → HttpResponse) (cred : Credentials) :
    SignsIn t respond cred (authenticate t respond cred) := by
  unfold authenticate
  by_cases hmissing : cred.account = "" ∨ cred.username = "" ∨ cred.password = ""
  · rw [if_pos hmissing]
    exact .incomplete (not_not_intro hmissing) (by decide)
  rw [if_neg hmissing]
  dsimp only
  have hfirst : Sent respond cred cred.projectPayload := ⟨hmissing, .inl rfl⟩
  -- the second request is sent only after a refusal that asks for nothing
  have honly : ¬ AsksAgain cred.totp (respond cred.projectPayload) →
    ∀ payload, Sent respond cred payload →
      payload = cred.projectPayload :=
        fun hnot payload h => h.2.resolve_right fun hsecond => hnot hsecond.2
  by_cases hok : (respond cred.projectPayload).Ok
  · rw [if_pos hok]
    exact .granted hfirst hok fun payload h => .inl (honly (fun hasks => hasks.1 hok) payload h)
  rw [if_neg hok]
  have hread := readable_of_refused hok cred.totp
  rcases checkMfa_cases cred.totp (respond cred.projectPayload) with
    ⟨hunread, err, hcheck⟩ | ⟨hrefusal, hstops, err, hcheck, hcode⟩ | ⟨hrefusal, hgoes, hcheck⟩
  · rw [hcheck]
    exact .unread hfirst fun h => hunread (hread.1 h)
  · rw [hcheck]
    refine .refused (fun payload h => ?_) fun henroll =>
      absurd (hcode.symm.trans henroll) (by decide)
    rw [honly (fun hasks => hstops hasks.2.2) payload h]
    exact hread.2 hrefusal
  · rw [hcheck]
    simp only [bind, Except.bind]
    by_cases hstatus : (respond cred.projectPayload).status = 401
    · rw [if_pos hstatus]
      exact signsIn_domain (hread.2 hrefusal) ⟨hmissing, .inr ⟨rfl, hok, hstatus, hgoes⟩⟩
    · rw [if_neg hstatus]
      refine .refused (fun payload h => ?_) fun henroll => absurd henroll raiseForAuthStatus_code
      rw [honly (fun hasks => hstatus hasks.2.1) payload h]
      exact hread.2 hrefusal

/-- **Signing in survives the answers of the cloud** if and only if each one that is received can be
read. -/
theorem survives_iff : Survives t respond cred ↔
    ∀ payload, Sent respond cred payload → Readable cred.totp (respond payload) := by
  have hways := signsIn t respond cred
  generalize hout : authenticate t respond cred = outcome at hways
  constructor
  · intro h payload hsent
    cases hways with
    | incomplete hmissing hother => exact absurd hsent.1 hmissing
    | @granted payload' scope hsent' hok hbefore =>
      rcases hbefore payload hsent with rfl | hread
      · have hne : ∀ err, toResult t (respond payload) scope cred.account ≠ .error (.python err) :=
          fun err herr => h.answers err (hout.trans herr)
        exact (readable_of_ok hok).2 (toResult_ne_python.1 hne)
      · exact hread
    | @unread payload' err hsent' hunread => exact absurd hout (h.answers err)
    | refused hread henroll => exact hread payload hsent
  · intro hread
    refine ⟨fun err herr => ?_, fun granted hgranted => ?_, fun err herr hcode => ?_⟩
    · rw [hout] at herr
      cases hways with
      | incomplete hmissing hother => cases herr
      | @granted payload scope hsent hok hbefore =>
        exact toResult_ne_python.2 ((readable_of_ok hok).1 (hread payload hsent)) err herr
      | unread hsent hunread => exact hunread (hread _ hsent)
      | refused hall henroll => cases herr
    · rw [hout] at hgranted
      cases hways with
      | incomplete hmissing hother => cases hgranted
      | @granted payload scope hsent hok hbefore =>
        exact ⟨payload, hsent, hok, toResult_eq_ok hgranted⟩
      | unread hsent hunread => cases hgranted
      | refused hall henroll => cases hgranted
    · rw [hout] at herr
      cases hways with
      | incomplete hmissing hother =>
        cases herr
        exact absurd hcode hother
      | @granted payload scope hsent hok hbefore =>
        exact absurd ((toResult_code herr).symm.trans hcode) (by decide)
      | unread hsent hunread => cases herr
      | refused hall henroll =>
        cases herr
        exact henroll hcode

/-- A text is itself, and the tests need no other value. -/
def plainText : PyText where
  str
    | .string s => s
    | _ => "?"
  str_string _ := rfl

/-- A refusal whose body is an empty list: `[]` has no `get`. -/
theorem signIn_breaks_on_list :
    let refusal : HttpResponse := ⟨401, fun _ => none, some (.list [])⟩
    authenticate plainText (fun _ => refusal) ⟨"Acme", "ann", "secret", none, none⟩ =
      .error (.python .attributeError) := rfl

end

end OpenCloud
