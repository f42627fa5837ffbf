import OpenCloud.Integrations.Auth
import OpenCloud.Lib.Histories
import OpenCloud.System.Authority

/-!
# The second step of a cabinet sign-in

Where the cloud asks for a one-time code, it answers the password with a receipt that the code must
come with.  The receipt is a credential: it is kept in the cache, encrypted, and the browser is
given a ticket.

`loginPost` is the whole of `LoginView.post`; what it does once the cloud has accepted the user is
`cabinetLoginPost`.

## Main results

* `signedIn_of_run` : every session goes back to a password the cloud accepted, by itself or with a
  code under a ticket that it was answered with.
* `answers_relabel` : whatever the receipts are, the browsers are answered the same.
-/

namespace OpenCloud

/-! ### Tickets -/

/-- What a ticket stands for. -/
structure MfaTicket where
  account : String
  username : String
  project : Option String
  /-- Encrypted in the cache. -/
  receipt : String

namespace MfaTicket

/-- `TTL_SECONDS`. -/
def ttlSeconds : ℕ := 4 * 60

variable (k : Crypto) (tickets : Cache String MfaTicket) (now : Instant) (ticket : String)

/-- `mfa.issue`; the ticket and the vector of the encryption are drawn. -/
def issue (iv : String) (entry : MfaTicket) : Cache String MfaTicket :=
  Cache.set tickets now ticket { entry with receipt := k.fernetEncrypt iv entry.receipt }
    (seconds ttlSeconds)

/-- `mfa.load`. -/
def load : Option MfaTicket :=
  (Cache.get tickets now ticket).bind fun entry =>
    (k.fernetDecrypt entry.receipt).map fun receipt => { entry with receipt := receipt }

/-- `mfa.revoke`. -/
def revoke : Cache String MfaTicket := Cache.delete tickets ticket

end MfaTicket

/-! ### The sign-in -/

/-- The payload of `LoginView.post`. -/
structure LoginData where
  account : Option String
  username : Option String
  password : Option String
  project : Option String
  mfaCode : Option String
  mfaToken : Option String

namespace LoginData

variable (data : LoginData)

/-- `(data.get(…) or '').strip()`. -/
def stripped (field : Option String) : String := strip (field.getD "")

/-- What a sign-in with the password sends. -/
def credentials : Credentials where
  account := stripped data.account
  username := stripped data.username
  password := data.password.getD ""
  project := keep (some (stripped data.project))
  totp := keep (some (stripped data.mfaCode))

/-- The ticket, if the payload has one. -/
def ticket : Option String := keep (some (stripped data.mfaToken))

end LoginData

/-- What a sign-in draws at random. -/
structure LoginDraws where
  ticket : String
  receiptIv : String
  /-- The key of a new session. -/
  sessionKey : String
  vaultIv : String

/-- What the cloud answers to a sign-in. -/
structure LoginCloud where
  authenticate : Credentials → Except AuthError ScopedResult
  /-- `authenticate_totp`, with what the ticket stands for and a passcode. -/
  authenticateTotp : MfaTicket → String → Except AuthError ScopedResult
  userProjects : String → String → Except ZadaraError (List (String × String))
  exchange : String → String → String → Except ZadaraError ScopedResult

/-- What the cloud answers once it has accepted the user. -/
def LoginCloud.accepting (cloud : LoginCloud) (data : LoginData) (granted : ScopedResult) :
    SignInCloud where
  accepted := .ok granted
  userProjects :=
    cloud.userProjects (LoginData.stripped data.account) (LoginData.stripped data.username)
  exchange := cloud.exchange

/-- The receipt of a refusal: `err.details.get('receipt')`. -/
def AuthError.receipt (err : AuthError) : Option String :=
  match Dict.get? err.details "receipt" with
  | some (.string receipt) => keep (some receipt)
  | _ => none

/-- An `AppError` with its details. -/
structure LoginRefusal extends AppError where
  details : List (String × Json)

/-- A refusal without details. -/
def LoginRefusal.plain (err : AppError) : LoginRefusal := { err with details := [] }

/-- What the sign-in reads and writes. -/
structure LoginDesk where
  cab : Cabinet
  tickets : Cache String MfaTicket

section

variable (k : Crypto) (c : Casing) (casefold : String → String)

/-- What a refused password is answered, and the tickets after it: `_raise_mfa_challenge`,
`_raise_mfa_enrollment` and `_raise_from_zadara`. -/
def refuseLogin (desk : LoginDesk) (draws : LoginDraws) (cred : Credentials) (err : AuthError) :
    LoginRefusal × Cache String MfaTicket :=
  match err.receipt with
  | some receipt =>
    if err.code = "mfa_required" then
      (⟨⟨err.message, "mfa_required", 401⟩, [("mfaToken", .string draws.ticket)]⟩,
        MfaTicket.issue k desk.tickets desk.cab.now draws.ticket draws.receiptIv
          ⟨cred.account, cred.username, cred.project, receipt⟩)
    else (refuse err, desk.tickets)
  | none => (refuse err, desk.tickets)
where
  /-- Without a challenge. -/
  refuse (err : AuthError) : LoginRefusal :=
    if err.code = "mfa_enrollment_required" then
      ⟨⟨err.message, "mfa_enrollment_required", 401⟩,
        [("mfaSecret", (Dict.get? err.details "secret").getD .null),
          ("otpauthUri", (Dict.get? err.details "otpauthUri").getD .null)]⟩
    else .plain (raiseFromZadara err.toZadaraError)

/-- `_complete_mfa`: what the cloud granted, and the tickets after it. -/
def completeMfa (desk : LoginDesk) (data : LoginData) (mfaToken : String) (cloud : LoginCloud) :
    Except LoginRefusal ScopedResult × Cache String MfaTicket :=
  match MfaTicket.load k desk.tickets desk.cab.now mfaToken with
  | none =>
    (.error (.plain ⟨"Your sign-in session expired, please start again.", "mfa_expired", 401⟩),
      desk.tickets)
  | some ticket =>
    if casefold data.credentials.account ≠ casefold ticket.account ∨
        casefold data.credentials.username ≠ casefold ticket.username then
      (.error (.plain ⟨"Please start the sign-in again.", "mfa_expired", 401⟩), desk.tickets)
    else match cloud.authenticateTotp ticket (data.credentials.totp.getD "") with
      | .error err => (.error (.plain (raiseFromZadara err.toZadaraError)), desk.tickets)
      | .ok granted => (.ok granted, MfaTicket.revoke desk.tickets mfaToken)

/-- What the cloud granted, and the tickets after asking it. -/
def askCloud (desk : LoginDesk) (data : LoginData) (draws : LoginDraws) (cloud : LoginCloud) :
    Except LoginRefusal ScopedResult × Cache String MfaTicket :=
  match data.ticket with
  | some mfaToken => completeMfa k casefold desk data mfaToken cloud
  | none => match cloud.authenticate data.credentials with
    | .ok granted => (.ok granted, desk.tickets)
    | .error err =>
      let refused := refuseLogin k desk draws data.credentials err
      (.error refused.1, refused.2)

/-- `LoginView.post`. -/
def loginViewPost (desk : LoginDesk) (cookie : String) (data : LoginData) (draws : LoginDraws)
    (cloud : LoginCloud) :
    Except LoginRefusal CabinetMe × LoginDesk :=
  match askCloud k casefold desk data draws cloud with
  | (.error err, tickets) => (.error err, { desk with tickets := tickets })
  | (.ok granted, tickets) =>
    let served := cabinetLoginPost k c desk.cab cookie draws.sessionKey (data.account.getD "")
      (data.project.getD "") draws.vaultIv (cloud.accepting data granted)
    (served.1.mapError .plain, ⟨served.2, tickets⟩)

end

/-! ### The desk over time -/

/-- What happens at the sign-in desk; the cloud's answers and the random draws are part of the
event. -/
inductive LoginEvent where
  /-- `LoginView.post`. -/
  | login (cookie : String) (data : LoginData) (draws : LoginDraws) (cloud : LoginCloud)
  /-- `ProjectSwitchView.post`. -/
  | switch (key project iv : String) (exchange : String → String → String →
    Except ZadaraError ScopedResult)
  /-- `LogoutView.post`, or a change of the password that the cloud accepted. -/
  | endSession (key : String)
  | setBlocked (blocked : List String)
  /-- The cache drops a ticket. -/
  | evict (ticket : String)
  | pass (duration : ℕ)

section

variable (k : Crypto) (c : Casing) (casefold : String → String)

/-- The desk after an event. -/
def serveLogin (desk : LoginDesk) : LoginEvent → LoginDesk
  | .login cookie data draws cloud => (loginViewPost k c casefold desk cookie data draws cloud).2
  | .switch key project iv exchange =>
    { desk with cab := serveCabinet k c desk.cab (.switch key project iv exchange) }
  | .endSession key => { desk with cab := serveCabinet k c desk.cab (.endSession key) }
  | .setBlocked blocked => { desk with cab := serveCabinet k c desk.cab (.setBlocked blocked) }
  | .evict ticket => { desk with tickets := MfaTicket.revoke desk.tickets ticket }
  | .pass duration => { desk with cab := serveCabinet k c desk.cab (.pass duration) }

/-- The desk over time. -/
def loginDesk : System LoginDesk LoginEvent :=
  System.ofExec fun desk event => some (serveLogin k c casefold desk event)

/-- A sign-in with the password was answered with this ticket, at this moment: the cloud had asked
for a code and given the receipt that the ticket stands for. -/
def Challenges (mfaToken : String) (ticket : MfaTicket) (issued : Instant)
    (_before : List LoginEvent) (desk : LoginDesk) : LoginEvent → Prop
  | .login _ data draws cloud =>
    draws.ticket = mfaToken ∧ desk.cab.now = issued ∧ data.ticket = none ∧
      ticket.account = data.credentials.account ∧ ticket.username = data.credentials.username ∧
      ticket.project = data.credentials.project ∧
      ∃ err, cloud.authenticate data.credentials = .error err ∧ err.code = "mfa_required" ∧
        err.receipt = some ticket.receipt
  | _ => False

/-- The cloud granted a token to a sign-in: for the password, or for a code together with the
receipt of a ticket that a password of the same user, ignoring case, was answered with less than 240
seconds before. -/
def Grants (desk₀ : LoginDesk) (before : List LoginEvent) (desk : LoginDesk) (data : LoginData)
    (cloud : LoginCloud) (granted : ScopedResult) : Prop :=
  (data.ticket = none ∧ cloud.authenticate data.credentials = .ok granted) ∨
  ∃ mfaToken ticket issued, data.ticket = some mfaToken ∧
    casefold ticket.account = casefold data.credentials.account ∧
    casefold ticket.username = casefold data.credentials.username ∧
    cloud.authenticateTotp ticket (data.credentials.totp.getD "") = .ok granted ∧
    (loginDesk k c casefold).Happened desk₀ (Challenges mfaToken ticket issued) before ∧
    issued ≤ desk.cab.now ∧ desk.cab.now < issued + seconds 240

/-- A sign-in of the browser with this session key signed this user in, who was not blocked. -/
def SignsInAs (desk₀ : LoginDesk) (key userId : String) (before : List LoginEvent)
    (desk : LoginDesk) :
    LoginEvent → Prop
  | .login cookie data draws cloud => (key = cookie ∨ key = draws.sessionKey) ∧
      ∃ granted result, Grants k c casefold desk₀ before desk data cloud granted ∧
        (cloud.accepting data granted).result (strip (data.account.getD ""))
          (data.project.getD "") = .ok result ∧
        result.userId = userId ∧ userId ∉ desk.cab.blocked
  | _ => False

end

section

variable {k : Crypto} {c : Casing} {casefold : String → String} {desk₀ desk : LoginDesk}
  {events : List LoginEvent} {cab : Cabinet} {key : String} {session : CabinetSession}

/-! ### One event -/

/-- What asking the cloud does to the tickets: nothing, it revokes the one it used, or it issues
one. -/
theorem askCloud_cases (k : Crypto) (casefold : String → String) (desk : LoginDesk)
    (data : LoginData) (draws : LoginDraws) (cloud : LoginCloud) :
    (∀ e ∈ (askCloud k casefold desk data draws cloud).2, e ∈ desk.tickets) ∨
    ∃ ticket, data.ticket = none ∧ ticket.account = data.credentials.account ∧
      ticket.username = data.credentials.username ∧ ticket.project = data.credentials.project ∧
      (∃ err, cloud.authenticate data.credentials = .error err ∧ err.code = "mfa_required" ∧
        err.receipt = some ticket.receipt) ∧
      (askCloud k casefold desk data draws cloud).2 =
        MfaTicket.issue k desk.tickets desk.cab.now draws.ticket draws.receiptIv ticket := by
  unfold askCloud
  cases hticket : data.ticket with
  | some mfaToken =>
    refine .inl fun e he => ?_
    dsimp only at he
    unfold completeMfa at he
    split at he
    · exact he
    · split_ifs at he
      · exact he
      · split at he
        · exact he
        · exact (Cache.mem_delete.1 he).1
  | none =>
    generalize data.credentials = cred
    cases hask : cloud.authenticate cred with
    | ok granted => exact .inl fun e he => he
    | error err =>
      dsimp only
      unfold refuseLogin
      cases hreceipt : err.receipt with
      | none => exact .inl fun e he => he
      | some receipt =>
        dsimp only
        split_ifs with hcode
        · exact .inr ⟨⟨cred.account, cred.username, cred.project, receipt⟩, rfl, rfl, rfl, rfl,
            ⟨err, rfl, hcode, hreceipt⟩, rfl⟩
        · exact .inl fun e he => he

theorem tickets_loginViewPost (cookie : String) (data : LoginData) (draws : LoginDraws)
    (cloud : LoginCloud) :
    (loginViewPost k c casefold desk cookie data draws cloud).2.tickets =
      (askCloud k casefold desk data draws cloud).2 := by
  unfold loginViewPost
  split <;> rename_i hask <;> rw [hask]

theorem now_cabinetLoginPost (cab : Cabinet) (cookie fresh account project iv : String)
    (cloud : SignInCloud) :
    (cabinetLoginPost k c cab cookie fresh account project iv cloud).2.now = cab.now := by
  unfold cabinetLoginPost
  split
  · rfl
  · dsimp only
    split_ifs
    · rfl
    · unfold Cabinet.login
      dsimp only
      split
      · split_ifs <;> rfl
      · rfl

theorem now_loginViewPost (cookie : String) (data : LoginData) (draws : LoginDraws)
    (cloud : LoginCloud) :
    (loginViewPost k c casefold desk cookie data draws cloud).2.cab.now = desk.cab.now := by
  unfold loginViewPost
  split
  · rfl
  · exact now_cabinetLoginPost ..

/-- A new session of a sign-in is that of its browser, for a user who is not blocked. -/
theorem session_of_cabinetLoginPost {cookie fresh account project iv : String} {cloud : SignInCloud}
    (h : (cabinetLoginPost k c cab cookie fresh account project iv cloud).2.sessions key =
      some session) :
    cab.sessions key = some session ∨ ((key = cookie ∨ key = fresh) ∧
      ∃ result, cloud.result (strip account) project = .ok result ∧ result.userId = session.userId ∧
        result.userId ∉ cab.blocked) := by
  unfold cabinetLoginPost at h
  cases hresult : cloud.result (strip account) project with
  | error err =>
    rw [hresult] at h
    exact .inl h
  | ok result =>
    rw [hresult] at h
    dsimp only at h
    split_ifs at h with hblocked
    · exact .inl h
    let cab₁ : Cabinet := { cab with users := upsertUser c cab.users result.toAuthResult }
    obtain ⟨huser, -, hold⟩ := login_spec cab₁ cookie fresh result.userId
    have hkey : (cab₁.login cookie fresh result.userId).1 = cookie ∨
        (cab₁.login cookie fresh result.userId).1 = fresh := by
      unfold Cabinet.login
      dsimp only
      split
      · split_ifs
        · exact .inl rfl
        · exact .inr rfl
      · exact .inr rfl
    by_cases hsame : key = (cab₁.login cookie fresh result.userId).1
    · subst hsame
      have hnew := (Function.update_self ..).symm.trans h
      refine .inr ⟨hkey, result, rfl, ?_, hblocked⟩
      rw [← Option.some.inj hnew]
      exact huser.symm
    · exact .inl (hold key session ((Function.update_of_ne hsame _ _).symm.trans h))

/-- A switch starts no session, and gives none to another user. -/
theorem session_of_switchPost {switched project iv : String}
    {exchange : String → String → String → Except ZadaraError ScopedResult}
    (h : (switchPost k c cab switched project iv exchange).2.sessions key = some session) :
    ∃ old, cab.sessions key = some old ∧ old.userId = session.userId := by
  unfold switchPost at h
  cases hresult : switchResult k cab switched project exchange with
  | error err =>
    rw [hresult] at h
    exact ⟨session, h, rfl⟩
  | ok triple =>
    obtain ⟨own, user, result⟩ := triple
    have hown : cab.sessions switched = some own := by
      unfold switchResult at hresult
      cases hask : switchAsk k cab switched project with
      | error err => simp [hask] at hresult
      | ok asked =>
        obtain ⟨own', user', token⟩ := asked
        rw [hask] at hresult
        dsimp only at hresult
        split at hresult
        · cases hresult
        · obtain ⟨rfl, -⟩ := Prod.mk.inj (Except.ok.inj hresult)
          exact (byId_of_switchAsk hask).1
    rw [hresult] at h
    by_cases hkey : key = switched
    · subst hkey
      have hnew := (Function.update_self ..).symm.trans h
      exact ⟨own, hown, by rw [← Option.some.inj hnew]; rfl⟩
    · exact ⟨session, (Function.update_of_ne hkey _ _).symm.trans h, rfl⟩

theorem now_switchPost (switched project iv : String)
    (exchange : String → String → String → Except ZadaraError ScopedResult) :
    (switchPost k c cab switched project iv exchange).2.now = cab.now := by
  unfold switchPost
  split <;> rfl

/-! ### Runs -/

/-- An event put this ticket into the cache. -/
def Issues (e : CacheEntry String MfaTicket) (before : List LoginEvent) (desk : LoginDesk)
    (event : LoginEvent) : Prop :=
  ∃ ticket issued, Challenges e.key ticket issued before desk event ∧
    (∃ iv, e.value = { ticket with receipt := k.fernetEncrypt iv ticket.receipt }) ∧
      e.expires = issued + seconds 240

theorem ticket_of_login {e : CacheEntry String MfaTicket} {cookie : String} {data : LoginData}
    {draws : LoginDraws} {cloud : LoginCloud}
    (he : e ∈ (loginViewPost k c casefold desk cookie data draws cloud).2.tickets)
    (before : List LoginEvent) :
    e ∈ desk.tickets ∨ @Issues k e before desk (.login cookie data draws cloud) := by
  rw [tickets_loginViewPost] at he
  rcases askCloud_cases k casefold desk data draws cloud with hold |
    ⟨ticket, hnone, haccount, husername, hproject, herr, hissued⟩
  · exact .inl (hold e he)
  · rw [hissued] at he
    rcases Cache.mem_set he with rfl | ⟨hold, -⟩
    · exact .inr ⟨ticket, desk.cab.now, ⟨rfl, rfl, hnone, haccount, husername, hproject, herr⟩,
        ⟨_, rfl⟩, rfl⟩
    · exact .inl hold

/-- Every ticket goes back to a password that the cloud asked a code for. -/
theorem issued_of_run (htickets : desk₀.tickets = [])
    (hrun : (loginDesk k c casefold).Run System.Free desk₀ events desk)
    {e : CacheEntry String MfaTicket} (he : e ∈ desk.tickets) :
    (loginDesk k c casefold).Happened desk₀ (@Issues k e) events := by
  refine @System.Run.happened _ _ _ _ _ _ _ (fun desk e => e ∈ desk.tickets)
    (@Issues k) hrun ?_ ?_ e he
  · intro e he
    rw [htickets] at he
    cases he
  · intro before desk event desk' _ hstep e he
    obtain rfl := Option.some.inj hstep
    cases event with
    | login cookie data draws cloud =>
      rw [serveLogin] at he
      exact ticket_of_login he before
    | evict ticket => exact .inl (Cache.mem_delete.1 he).1
    | switch key project iv exchange => exact .inl he
    | endSession key => exact .inl he
    | setBlocked blocked => exact .inl he
    | pass duration => exact .inl he

/-- No ticket lives longer than it may. -/
theorem expires_of_run (htickets : desk₀.tickets = [])
    (hrun : (loginDesk k c casefold).Run System.Free desk₀ events desk) :
    ∀ e ∈ desk.tickets, e.expires ≤ desk.cab.now + seconds 240 := by
  refine
    hrun.keeps (I := fun desk => ∀ e ∈ desk.tickets, e.expires ≤ desk.cab.now + seconds 240) ?_ ?_
  · rw [htickets]
    rintro _ ⟨⟩
  · intro desk event desk' hold hstep e he
    obtain rfl := Option.some.inj hstep
    cases event with
    | login cookie data draws cloud =>
      rw [serveLogin] at he ⊢
      rw [now_loginViewPost]
      rcases ticket_of_login he [] with he | ⟨ticket, issued, hchallenge, -, hexpires⟩
      · exact hold e he
      · obtain ⟨-, rfl, -⟩ := hchallenge
        exact hexpires.le
    | evict ticket => exact hold e (Cache.mem_delete.1 he).1
    | switch key project iv exchange =>
      have hnow : (serveLogin k c casefold desk (.switch key project iv exchange)).cab.now =
          desk.cab.now := now_switchPost ..
      rw [hnow]
      exact hold e he
    | endSession key => exact hold e he
    | setBlocked blocked => exact hold e he
    | pass duration =>
      have hle : desk.cab.now ≤ desk.cab.now + duration := Nat.le_add_right _ _
      exact (hold e he).trans (Nat.add_le_add_right hle _)

/-- What a sign-in goes on with, the cloud granted. -/
theorem grants_of_askCloud (htickets : desk₀.tickets = [])
    (hrun : (loginDesk k c casefold).Run System.Free desk₀ events desk) {data : LoginData}
    {draws : LoginDraws} {cloud : LoginCloud} {granted : ScopedResult}
    (h : (askCloud k casefold desk data draws cloud).1 = .ok granted) :
    Grants k c casefold desk₀ events desk data cloud granted := by
  unfold askCloud at h
  cases hticket : data.ticket with
  | none =>
    rw [hticket] at h
    dsimp only at h
    split at h
    · rename_i hgranted
      obtain rfl := Except.ok.inj h
      exact .inl ⟨hticket, hgranted⟩
    · cases h
  | some mfaToken =>
    rw [hticket] at h
    dsimp only at h
    unfold completeMfa at h
    cases hload : MfaTicket.load k desk.tickets desk.cab.now mfaToken with
    | none =>
      rw [hload] at h
      cases h
    | some loaded =>
      rw [hload] at h
      dsimp only at h
      split_ifs at h with hother
      split at h
      · cases h
      rename_i hgranted
      obtain rfl := Except.ok.inj h
      obtain ⟨entry, hget, hentry⟩ := Option.bind_eq_some_iff.1 hload
      obtain ⟨receipt, hreceipt, rfl⟩ := Option.map_eq_some_iff.1 hentry
      obtain ⟨e, he, rfl, rfl, halive⟩ := Cache.exists_of_get hget
      obtain ⟨before, event, after, s, hevents, hbefore, ticket, issued, hchallenge, ⟨iv, hvalue⟩,
        hexpires⟩ := issued_of_run htickets hrun he
      -- the receipt is decrypted to what was encrypted
      have hsame : ({ e.value with receipt := receipt } : MfaTicket) = ticket := by
        rw [hvalue, k.decrypt_encrypt] at hreceipt
        rw [hvalue, ← Option.some.inj hreceipt]
      rw [hsame] at hother hgranted
      obtain ⟨haccount, husername⟩ := not_or.1 hother
      refine .inr ⟨e.key, ticket, issued, hticket, (not_not.1 haccount).symm,
        (not_not.1 husername).symm,
        hgranted, ⟨before, event, after, s, hevents, hbefore, hchallenge⟩, ?_, hexpires ▸ halive⟩
      have hle := expires_of_run htickets hrun e he
      rw [hexpires] at hle
      exact Nat.le_of_add_le_add_right hle

end

/-- **No cabinet session without the cloud's word.**  In every run from a desk without tickets and
sessions, every session goes back to a sign-in of its own browser that the cloud granted: for the
password, or for a code under a ticket that a password of the same user was answered with. -/
theorem signedIn_of_run {k : Crypto} {c : Casing} {casefold : String → String}
    {desk₀ desk : LoginDesk} {events : List LoginEvent} (htickets : desk₀.tickets = [])
    (hsessions : ∀ key, desk₀.cab.sessions key = none)
    (hrun : (loginDesk k c casefold).Run System.Free desk₀ events desk) {key : String}
    {session : CabinetSession} (hsession : desk.cab.sessions key = some session) :
    (loginDesk k c casefold).Happened desk₀ (SignsInAs k c casefold desk₀ key session.userId)
      events := by
  refine @System.Run.happened _ _ _ _ _ _ (String × String)
    (fun desk held => ∃ session, desk.cab.sessions held.1 = some session ∧ session.userId = held.2)
    (fun held => SignsInAs k c casefold desk₀ held.1 held.2) hrun ?_ ?_ (key, session.userId)
      ⟨session, hsession, rfl⟩
  · rintro ⟨key, userId⟩ ⟨session, hsession, -⟩
    rw [hsessions] at hsession
    cases hsession
  · rintro before desk event desk' hbefore hstep ⟨key, userId⟩ ⟨session, hsession, huser⟩
    obtain rfl := Option.some.inj hstep
    cases event with
    | login cookie data draws cloud =>
      have hgrants : ∀ granted, (askCloud k casefold desk data draws cloud).1 = .ok granted →
          Grants k c casefold desk₀ before desk data cloud granted :=
            fun _ => grants_of_askCloud htickets hbefore
      dsimp only at hsession
      rw [serveLogin, loginViewPost] at hsession
      split at hsession
      · exact .inl ⟨session, hsession, huser⟩
      · rename_i granted tickets hask
        rcases session_of_cabinetLoginPost hsession with
          hold | ⟨hkey, result, hresult, hid, hblocked⟩
        · exact .inl ⟨session, hold, huser⟩
        · have hgranted := hgrants granted (congrArg Prod.fst hask)
          exact .inr ⟨hkey, granted, result, hgranted, hresult, hid.trans huser,
            huser ▸ hid ▸ hblocked⟩
    | switch switched project iv exchange =>
      obtain ⟨old, hold, hsame⟩ := session_of_switchPost hsession
      exact .inl ⟨old, hold, hsame.trans huser⟩
    | endSession ended =>
      by_cases hkey : key = ended
      · subst hkey
        simp [serveLogin, serveCabinet] at hsession
      · exact .inl ⟨session, (Function.update_of_ne hkey _ _).symm.trans hsession, huser⟩
    | setBlocked blocked => exact .inl ⟨session, hsession, huser⟩
    | evict ticket => exact .inl ⟨session, hsession, huser⟩
    | pass duration => exact .inl ⟨session, hsession, huser⟩

/-- A cloud that asks for a code, and accepts it with the receipt it gave. -/
def codeCloud (receipt : String) : LoginCloud where
  authenticate _ :=
    .error ⟨⟨"mfa_required", "A one-time MFA code is required"⟩, some 401,
      [("receipt", .string receipt)]⟩
  authenticateTotp ticket passcode :=
    if ticket.receipt = receipt ∧ passcode = "111111" then .ok (annScope "p1" ["_member_"])
    else .error ⟨⟨"invalid_mfa_code", "Invalid or expired MFA code"⟩, some 401, []⟩
  userProjects _ _ := .ok []
  exchange _ _ _ := .error ⟨"forbidden", "You cannot access this project"⟩

/-- A user signs in with the password, and a minute later with the code. -/
def twoSteps (receipt : String) : List LoginEvent :=
  [.login "" ⟨some "Acme", some "ann", some "pw", none, none, none⟩ ⟨"t1", "", "s1", ""⟩
    (codeCloud receipt), .pass (seconds 60),
    .login "" ⟨some "acme ", some "ann", none, none, some "111111", some "t1"⟩ ⟨"t2", "", "s2", ""⟩
      (codeCloud receipt)]

theorem signedIn_of_run_ann :
    ∃ desk session, (loginDesk sampleCrypto .ascii Casing.ascii.lower).Run System.Free
      ⟨emptyCabinet, []⟩
        (twoSteps "r1") desk ∧
      desk.cab.sessions "s2" = some session ∧ session.userId = "u1" ∧
      (loginDesk sampleCrypto .ascii Casing.ascii.lower).Happened ⟨emptyCabinet, []⟩
        (SignsInAs sampleCrypto .ascii Casing.ascii.lower ⟨emptyCabinet, []⟩ "s2" session.userId)
          (twoSteps "r1") := by
  have hdesk :
    (System.execAll (fun desk event =>
      some (serveLogin sampleCrypto .ascii Casing.ascii.lower desk event))
      System.Free [] ⟨emptyCabinet, []⟩ (twoSteps "r1")).map (fun desk =>
        (desk.cab.sessions "s2").map CabinetSession.userId) = some (some "u1") := by decide +kernel
  obtain ⟨desk, hexec, huser⟩ := Option.map_eq_some_iff.1 hdesk
  obtain ⟨session, hsession, hid⟩ := Option.map_eq_some_iff.1 huser
  have hrun := System.Run.of_exec hexec
  exact ⟨desk, session, hrun, hsession, hid, signedIn_of_run rfl (fun _ => rfl) hrun hsession⟩

/-! ### What the browsers are told -/

/-- The answer to an event, if it has one. -/
def loginAnswer (k : Crypto) (c : Casing) (casefold : String → String) (desk : LoginDesk) :
    LoginEvent → Option (Except LoginRefusal CabinetMe)
  | .login cookie data draws cloud =>
    some (loginViewPost k c casefold desk cookie data draws cloud).1
  | .switch key project iv exchange =>
    some ((switchPost k c desk.cab key project iv exchange).1.mapError .plain)
  | _ => none

/-- The answers to the events, in order. -/
def loginAnswers (k : Crypto) (c : Casing) (casefold : String → String) :
    LoginDesk → List LoginEvent → List (Option (Except LoginRefusal CabinetMe))
  | _, [] => []
  | desk, event :: events =>
    loginAnswer k c casefold desk event :: loginAnswers k c casefold
      (serveLogin k c casefold desk event) events

/-- With another receipt. -/
def MfaTicket.relabel (f : String → String) (ticket : MfaTicket) : MfaTicket :=
  { ticket with receipt := f ticket.receipt }

/-- The clouds differ in the receipts that they give and take. -/
structure LoginCloud.Relabels (f : String → String) (cloud cloud' : LoginCloud) : Prop where
  granted : ∀ cred granted, cloud.authenticate cred = .ok granted →
    cloud'.authenticate cred = .ok granted
  refused : ∀ cred err, cloud.authenticate cred = .error err →
    ∃ err', cloud'.authenticate cred = .error err' ∧
    err'.toZadaraError = err.toZadaraError ∧ err'.receipt = err.receipt.map f ∧
    Dict.get? err'.details "secret" = Dict.get? err.details "secret" ∧
    Dict.get? err'.details "otpauthUri" = Dict.get? err.details "otpauthUri"
  totp : ∀ ticket passcode, cloud'.authenticateTotp (ticket.relabel f) passcode =
    cloud.authenticateTotp ticket passcode
  userProjects : cloud'.userProjects = cloud.userProjects
  exchange : cloud'.exchange = cloud.exchange

/-- The events differ in the receipts of the cloud. -/
inductive LoginEvent.Relabels (f : String → String) : LoginEvent → LoginEvent → Prop
  | login (cookie : String) (data : LoginData) (draws : LoginDraws) {cloud cloud' : LoginCloud} :
      cloud.Relabels f cloud' →
        Relabels f (.login cookie data draws cloud) (.login cookie data draws cloud')
  | same (event : LoginEvent) :
    (∀ cookie data draws cloud, event ≠ .login cookie data draws cloud) →
      Relabels f event event

section

variable {k : Crypto} {c : Casing} {casefold : String → String} {f : String → String}
  {desk desk' : LoginDesk}

/-- The entries differ in the receipt that is encrypted. -/
structure SameTicket (k : Crypto) (f : String → String) (e e' : CacheEntry String MfaTicket) :
    Prop where
  key : e'.key = e.key
  expires : e'.expires = e.expires
  value : ∃ (ticket : MfaTicket) (iv : String), e.value =
    { ticket with receipt := k.fernetEncrypt iv ticket.receipt } ∧
    e'.value = { ticket with receipt := k.fernetEncrypt iv (f ticket.receipt) }

/-- The desks differ in the receipts of their tickets. -/
structure SameDesk (k : Crypto) (f : String → String) (desk desk' : LoginDesk) : Prop where
  cab : desk'.cab = desk.cab
  tickets : List.Forall₂ (SameTicket k f) desk.tickets desk'.tickets

theorem forall₂_delete {tickets tickets' : Cache String MfaTicket}
    (h : List.Forall₂ (SameTicket k f) tickets tickets') (key : String) :
    List.Forall₂ (SameTicket k f) (Cache.delete tickets key) (Cache.delete tickets' key) := by
  induction h with
  | nil => exact .nil
  | cons he _ ih =>
    unfold Cache.delete
    rw [List.filter_cons, List.filter_cons, he.key]
    split_ifs
    · exact .cons he ih
    · exact ih

/-- A ticket is loaded from either desk, with its receipt. -/
theorem load_relabel {tickets tickets' : Cache String MfaTicket}
    (h : List.Forall₂ (SameTicket k f) tickets tickets') (now : Instant) (mfaToken : String) :
    MfaTicket.load k tickets' now mfaToken =
      (MfaTicket.load k tickets now mfaToken).map (MfaTicket.relabel f) := by
  induction h with
  | nil => rfl
  | @cons e e' tickets tickets' he _ ih =>
    by_cases hfound : e.key = mfaToken ∧ now < e.expires
    · have hfound' : e'.key = mfaToken ∧ now < e'.expires := by rwa [he.key, he.expires]
      obtain ⟨ticket, iv, hvalue, hvalue'⟩ := he.value
      have hget : Cache.get (e :: tickets) now mfaToken = some e.value := by
        rw [Cache.get, List.find?_cons_of_pos (by simpa using hfound)]
        rfl
      have hget' : Cache.get (e' :: tickets') now mfaToken = some e'.value := by
        rw [Cache.get, List.find?_cons_of_pos (by simpa using hfound')]
        rfl
      rw [MfaTicket.load, MfaTicket.load, hget, hget', hvalue, hvalue']
      simp [k.decrypt_encrypt, MfaTicket.relabel]
    · have hfound' : ¬ (e'.key = mfaToken ∧ now < e'.expires) := by rwa [he.key, he.expires]
      have hget : Cache.get (e :: tickets) now mfaToken = Cache.get tickets now mfaToken := by
        rw [Cache.get, List.find?_cons_of_neg (by simpa using hfound)]
        rfl
      have hget' : Cache.get (e' :: tickets') now mfaToken = Cache.get tickets' now mfaToken := by
        rw [Cache.get, List.find?_cons_of_neg (by simpa using hfound')]
        rfl
      rw [MfaTicket.load, hget', ← MfaTicket.load, ih, MfaTicket.load, MfaTicket.load, hget]

theorem refuseLogin_relabel (hdesk : SameDesk k f desk desk') (draws : LoginDraws)
    (cred : Credentials) {err err' : AuthError} (hcode : err'.toZadaraError = err.toZadaraError)
    (hreceipt : err'.receipt = err.receipt.map f)
    (hsecret : Dict.get? err'.details "secret" = Dict.get? err.details "secret")
    (huri : Dict.get? err'.details "otpauthUri" = Dict.get? err.details "otpauthUri") :
    (refuseLogin k desk' draws cred err').1 = (refuseLogin k desk draws cred err).1 ∧
    List.Forall₂ (SameTicket k f) (refuseLogin k desk draws cred err).2
      (refuseLogin k desk' draws cred err').2 := by
  have hrefuse : refuseLogin.refuse err' = refuseLogin.refuse err := by
    unfold refuseLogin.refuse
    rw [hcode, hsecret, huri]
  unfold refuseLogin
  rw [hreceipt]
  cases err.receipt with
  | none => exact ⟨hrefuse, hdesk.tickets⟩
  | some receipt =>
    rw [Option.map_some]
    dsimp only
    rw [hcode, hrefuse]
    split_ifs
    · refine ⟨rfl, .cons ⟨rfl, ?_, ⟨⟨cred.account, cred.username, cred.project, receipt⟩,
        draws.receiptIv, rfl, rfl⟩⟩ (forall₂_delete hdesk.tickets _)⟩
      rw [hdesk.cab]
    · exact ⟨rfl, hdesk.tickets⟩

theorem completeMfa_relabel (hdesk : SameDesk k f desk desk') (data : LoginData) (mfaToken : String)
    {cloud cloud' : LoginCloud} (hcloud : cloud.Relabels f cloud') :
    (completeMfa k casefold desk' data mfaToken cloud').1 =
      (completeMfa k casefold desk data mfaToken cloud).1 ∧
    List.Forall₂ (SameTicket k f) (completeMfa k casefold desk data mfaToken cloud).2
      (completeMfa k casefold desk' data mfaToken cloud').2 := by
  unfold completeMfa
  rw [hdesk.cab, load_relabel hdesk.tickets]
  cases MfaTicket.load k desk.tickets desk.cab.now mfaToken with
  | none => exact ⟨rfl, hdesk.tickets⟩
  | some ticket =>
    rw [Option.map_some]
    dsimp only
    rw [hcloud.totp]
    have haccount : (ticket.relabel f).account = ticket.account := rfl
    have husername : (ticket.relabel f).username = ticket.username := rfl
    rw [haccount, husername]
    split_ifs
    · exact ⟨rfl, hdesk.tickets⟩
    · cases cloud.authenticateTotp ticket (data.credentials.totp.getD "") with
      | error err => exact ⟨rfl, hdesk.tickets⟩
      | ok granted => exact ⟨rfl, forall₂_delete hdesk.tickets mfaToken⟩

theorem askCloud_relabel (hdesk : SameDesk k f desk desk') (data : LoginData) (draws : LoginDraws)
    {cloud cloud' : LoginCloud} (hcloud : cloud.Relabels f cloud') :
    (askCloud k casefold desk' data draws cloud').1 =
      (askCloud k casefold desk data draws cloud).1 ∧
    List.Forall₂ (SameTicket k f) (askCloud k casefold desk data draws cloud).2
      (askCloud k casefold desk' data draws cloud').2 := by
  unfold askCloud
  cases data.ticket with
  | some mfaToken => exact completeMfa_relabel hdesk data mfaToken hcloud
  | none =>
    cases hask : cloud.authenticate data.credentials with
    | ok granted =>
      rw [hcloud.granted _ _ hask]
      exact ⟨rfl, hdesk.tickets⟩
    | error err =>
      obtain ⟨err', hask', hcode, hreceipt, hsecret, huri⟩ := hcloud.refused _ _ hask
      have hrefused := refuseLogin_relabel hdesk draws data.credentials hcode hreceipt hsecret huri
      rw [hask']
      exact ⟨congrArg Except.error hrefused.1, hrefused.2⟩

theorem loginViewPost_relabel (hdesk : SameDesk k f desk desk') (cookie : String) (data : LoginData)
    (draws : LoginDraws) {cloud cloud' : LoginCloud} (hcloud : cloud.Relabels f cloud') :
    (loginViewPost k c casefold desk' cookie data draws cloud').1 =
      (loginViewPost k c casefold desk cookie data draws cloud).1 ∧
    SameDesk k f (loginViewPost k c casefold desk cookie data draws cloud).2
      (loginViewPost k c casefold desk' cookie data draws cloud').2 := by
  have haccepting (granted : ScopedResult) :
    cloud'.accepting data granted = cloud.accepting data granted := by
    unfold LoginCloud.accepting
    rw [hcloud.userProjects, hcloud.exchange]
  obtain ⟨hanswer, htickets⟩ := @askCloud_relabel _ casefold _ _ _ hdesk data draws _ _ hcloud
  unfold loginViewPost
  revert hanswer htickets
  obtain ⟨asked, tickets⟩ := askCloud k casefold desk data draws cloud
  obtain ⟨asked', tickets'⟩ := askCloud k casefold desk' data draws cloud'
  rintro rfl htickets
  cases asked' with
  | error err => exact ⟨rfl, ⟨hdesk.cab, htickets⟩⟩
  | ok granted =>
    dsimp only
    rw [haccepting, hdesk.cab]
    exact ⟨rfl, ⟨rfl, htickets⟩⟩

/-- A related event is answered the same, and leaves the desks related. -/
theorem serveLogin_relabel (hdesk : SameDesk k f desk desk') {event event' : LoginEvent}
    (hevent : LoginEvent.Relabels f event event') :
    loginAnswer k c casefold desk' event' = loginAnswer k c casefold desk event ∧
    SameDesk k f (serveLogin k c casefold desk event) (serveLogin k c casefold desk' event') := by
  cases hevent with
  | login cookie data draws hcloud =>
    have hpost := @loginViewPost_relabel _ c casefold _ _ _ hdesk cookie data draws _ _ hcloud
    exact ⟨congrArg some hpost.1, hpost.2⟩
  | same event hlogin =>
    cases event with
    | login cookie data draws cloud => exact absurd rfl (hlogin cookie data draws cloud)
    | switch key project iv exchange =>
      refine ⟨?_, ⟨?_, hdesk.tickets⟩⟩
      · rw [loginAnswer, loginAnswer, hdesk.cab]
      · rw [serveLogin, serveLogin, hdesk.cab]
    | evict ticket => exact ⟨rfl, ⟨hdesk.cab, forall₂_delete hdesk.tickets ticket⟩⟩
    | endSession key | setBlocked blocked | pass duration =>
      refine ⟨rfl, ⟨?_, hdesk.tickets⟩⟩
      rw [serveLogin, serveLogin, hdesk.cab]

theorem loginAnswers_relabel {events events' : List LoginEvent}
    (hevents : List.Forall₂ (LoginEvent.Relabels f) events events')
    (hdesk : SameDesk k f desk desk') :
    loginAnswers k c casefold desk' events' = loginAnswers k c casefold desk events := by
  induction hevents generalizing desk desk' with
  | nil => rfl
  | cons hevent _ ih =>
    have hstep := @serveLogin_relabel _ c casefold _ _ _ hdesk _ _ hevent
    rw [loginAnswers, loginAnswers, hstep.1, ih hstep.2]

end

/-- The browsers learn nothing of the receipts: had the cloud given and taken others in their place,
every answer to every browser would have been the same. -/
theorem answers_relabel (k : Crypto) (c : Casing) (casefold : String → String) (f : String → String)
    (cab : Cabinet) {events events' : List LoginEvent}
    (h : List.Forall₂ (LoginEvent.Relabels f) events events') :
    loginAnswers k c casefold ⟨cab, []⟩ events' = loginAnswers k c casefold ⟨cab, []⟩ events :=
  loginAnswers_relabel h ⟨rfl, .nil⟩

theorem codeCloud_relabels : (codeCloud "r1").Relabels (Equiv.swap "r1" "r2") (codeCloud "r2") where
  granted _ _ h := nomatch h
  refused _ _ h := by
    cases h
    exact ⟨_, rfl, rfl, by decide, rfl, rfl⟩
  totp ticket passcode := by
    have hreceipt : (ticket.relabel (Equiv.swap "r1" "r2")).receipt = "r2" ↔
      ticket.receipt = "r1" :=
      Equiv.swap_apply_eq_iff.trans (by rw [Equiv.swap_apply_right])
    simp only [codeCloud, hreceipt]
  userProjects := rfl
  exchange := rfl

theorem answers_relabel_ann :
    List.Forall₂ (LoginEvent.Relabels (Equiv.swap "r1" "r2")) (twoSteps "r1") (twoSteps "r2") ∧
    loginAnswers sampleCrypto .ascii Casing.ascii.lower ⟨emptyCabinet, []⟩ (twoSteps "r2") =
      loginAnswers sampleCrypto .ascii Casing.ascii.lower ⟨emptyCabinet, []⟩ (twoSteps "r1") := by
  have hevents :
    List.Forall₂ (LoginEvent.Relabels (Equiv.swap "r1" "r2")) (twoSteps "r1") (twoSteps "r2") :=
    .cons (.login _ _ _ codeCloud_relabels)
      (.cons (.same _ nofun) (.cons (.login _ _ _ codeCloud_relabels) .nil))
  exact ⟨hevents, answers_relabel sampleCrypto .ascii Casing.ascii.lower _ emptyCabinet hevents⟩

end OpenCloud
