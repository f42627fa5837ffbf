import OpenCloud.Accounts.Passwords
import OpenCloud.AdminApi.UserViews
import OpenCloud.System.Switches

/-!
# Whose token a request has

A request of a session goes to the cloud with the token that the vault holds under the key of the
session.  The session table and the vault are written apart, and a key may outlive its session: a
sign-in of another user in the same browser leaves the old token in the vault.

A user's own token is one that the cloud gave to a sign-in as that user, or for an own token of the
user's.

## Main results

* `own_token_of_run` : the token of a live session is its user's own.
* `own_password_of_run` : a session changes the password of its own user, whomever the payload
  names, and is then over.
-/

namespace OpenCloud

/-- What happens at the cabinet, with the password page. -/
inductive AccountEvent where
  | cabinet (event : CabinetEvent)
  /-- `PasswordChangeView.post`. -/
  | changePassword (key : String) (data : Json) (ask : HttpCall → Except RequestError HttpResponse)
  /-- An administrator removes the row of a user. -/
  | removeUser (userId : String)

/-- The cabinet after an event. -/
def serveAccount (k : Crypto) (t : PyText) (c : Casing) (cab : Cabinet) : AccountEvent → Cabinet
  | .cabinet event => serveCabinet k c cab event
  | .changePassword key data ask => (cabinetPasswordChangePost k t c ask cab key data).2
  | .removeUser userId => { cab with users := cab.users.remove userId }

/-- The cabinet over time, with the password page. -/
def accounts (k : Crypto) (t : PyText) (c : Casing) : System Cabinet AccountEvent :=
  System.ofExec fun cab event => some (serveAccount k t c cab event)

/-- In the run of these events the cloud gave the user this token: to a sign-in as the user, or in
exchange for another token of the user's. -/
inductive OwnToken (k : Crypto) (t : PyText) (c : Casing) (cab₀ : Cabinet) :
    List AccountEvent → String → String → Prop
  | signIn {events : List AccountEvent} {cab : Cabinet} {cookie fresh account project iv : String}
    {cloud : SignInCloud}
      {result : ScopedResult} :
      (accounts k t c).Run System.Free cab₀ events cab →
      cloud.result (strip account) project = .ok result → result.userId ∉ cab.blocked →
      OwnToken k t c cab₀ (events ++ [.cabinet (.signIn cookie fresh account project iv cloud)])
        result.userId result.token
  | exchange {events : List AccountEvent} {cab : Cabinet} {key project iv token : String}
    {session : CabinetSession}
      {user : User} {result : ScopedResult}
      {exchange : String → String → String → Except ZadaraError ScopedResult} :
      (accounts k t c).Run System.Free cab₀ events cab →
      switchAsk k cab key project = .ok (session, user, token) →
        OwnToken k t c cab₀ events session.userId token →
      exchange token (strip project) user.account = .ok result →
      OwnToken k t c cab₀ (events ++ [.cabinet (.switch key project iv exchange)]) session.userId
        result.token
  | later {events : List AccountEvent} {event : AccountEvent} {userId token : String} :
      OwnToken k t c cab₀ events userId token → OwnToken k t c cab₀ (events ++ [event]) userId token

section

variable {k : Crypto} {t : PyText} {c : Casing} {cab cab' cab₀ : Cabinet}
  {events : List AccountEvent} {key userId token iv : String} {session : CabinetSession}

/-! ### One event -/

/-- A live session of the user has the token in the vault. -/
def Cabinet.HoldsFor (k : Crypto) (cab : Cabinet) (userId token : String) : Prop :=
  ∃ key session, cab.sessions key = some session ∧ session.userId = userId ∧
    Vault.Holds k cab.vault cab.now key token

/-- Sessions and tokens only go, and time only passes. -/
structure Cabinet.Within (cab' cab : Cabinet) : Prop where
  sessions : ∀ key session, cab'.sessions key = some session → cab.sessions key = some session
  vault : ∀ e ∈ cab'.vault, e ∈ cab.vault
  now : cab.now ≤ cab'.now

/-- The session under the key, which is the user's, gets the token, and sessions under other keys
only go. -/
structure Cabinet.Puts (k : Crypto) (cab' cab : Cabinet) (key iv userId token : String) : Prop where
  session : ∀ session, cab'.sessions key = some session → session.userId = userId
  sessions : ∀ other ≠ key, ∀ session, cab'.sessions other = some session →
    cab.sessions other = some session
  vault : cab'.vault = Vault.store k cab.vault cab.now key iv token
  now : cab'.now = cab.now

theorem Cabinet.Within.holdsFor (h : cab'.Within cab) (hholds : cab'.HoldsFor k userId token) :
    cab.HoldsFor k userId token := by
  obtain ⟨key, session, hsession, huser, e, he, hkey, halive, hdecrypt⟩ := hholds
  exact ⟨key, session, h.sessions key session hsession, huser, e, h.vault e he, hkey,
    h.now.trans_lt halive, hdecrypt⟩

theorem Cabinet.Puts.holdsFor {userId' token' : String} (h : cab'.Puts k cab key iv userId token)
    (hholds : cab'.HoldsFor k userId' token') :
    cab.HoldsFor k userId' token' ∨ userId' = userId ∧ token' = token := by
  obtain ⟨other, session, hsession, rfl, hvault⟩ := hholds
  rw [h.vault, h.now] at hvault
  by_cases hkey : other = key
  · subst hkey
    exact .inr ⟨h.session session hsession, Vault.eq_of_holds_store hvault⟩
  · obtain ⟨e, he, hek, halive, hdecrypt⟩ := hvault
    rcases Cache.mem_set he with rfl | ⟨hold, -⟩
    · exact absurd hek.symm hkey
    · exact .inl ⟨other, session, h.sessions other hkey session hsession, rfl, e, hold, hek, halive,
        hdecrypt⟩

theorem Cabinet.Within.refl (cab : Cabinet) : cab.Within cab :=
  ⟨fun _ _ h => h, fun _ h => h, le_rfl⟩

theorem within_logout (cab : Cabinet) (key : String) : (cab.logout key).Within cab := by
  refine ⟨fun other session h => ?_, fun e he => (Cache.mem_delete.1 he).1, le_rfl⟩
  by_cases hkey : other = key
  · subst hkey
    exact absurd ((Function.update_self ..).symm.trans h) (by simp)
  · exact (Function.update_of_ne hkey _ _).symm.trans h

theorem within_passwordChange (cab : Cabinet) (key : String) (data : Json)
    (ask : HttpCall → Except RequestError HttpResponse) :
    (cabinetPasswordChangePost k t c ask cab key data).2.Within cab := by
  unfold cabinetPasswordChangePost
  split
  · exact .refl cab
  · split
    · exact .refl cab
    · exact within_logout cab key

theorem frame_login (cab : Cabinet) (cookie fresh userId : String) :
    (cab.login cookie fresh userId).2.2.vault = cab.vault ∧
      (cab.login cookie fresh userId).2.2.now = cab.now := by
  unfold Cabinet.login
  dsimp only
  split
  · split_ifs <;> exact ⟨rfl, rfl⟩
  · exact ⟨rfl, rfl⟩

/-- A sign-in gives the session a token of its user, or does nothing to sessions and tokens. -/
theorem signIn_cases (cab : Cabinet) (cookie fresh account project iv : String)
    (cloud : SignInCloud) :
    (cabinetLoginPost k c cab cookie fresh account project iv cloud).2.Within cab ∨
      ∃ key result, cloud.result (strip account) project = .ok result ∧
        result.userId ∉ cab.blocked ∧
        (cabinetLoginPost k c cab cookie fresh account project iv cloud).2.Puts k cab key iv
          result.userId result.token := by
  unfold cabinetLoginPost
  cases hresult : cloud.result (strip account) project with
  | error err => exact .inl (.refl cab)
  | ok result =>
    dsimp only
    split_ifs with hblocked
    · exact .inl ⟨fun _ _ h => h, fun _ h => h, le_rfl⟩
    let cab₁ : Cabinet := { cab with users := upsertUser c cab.users result.toAuthResult }
    obtain ⟨huser, -, hold⟩ := login_spec cab₁ cookie fresh result.userId
    obtain ⟨hvault, hnow⟩ := frame_login cab₁ cookie fresh result.userId
    refine .inr ⟨(cab₁.login cookie fresh result.userId).1, result, rfl, hblocked, ?_, ?_, ?_, hnow⟩
    · intro session h
      have hnew := (Function.update_self ..).symm.trans h
      rw [← Option.some.inj hnew]
      exact huser
    · intro other hother session h
      exact hold other session ((Function.update_of_ne hother _ _).symm.trans h)
    · show Vault.store k (cab₁.login cookie fresh result.userId).2.2.vault
        (cab₁.login cookie fresh result.userId).2.2.now _ iv result.token = _
      rw [hvault, hnow]

/-- A switch gives the session a token exchanged for the one it had, or does nothing. -/
theorem switch_cases (cab : Cabinet) (key project iv : String)
    (exchange : String → String → String → Except ZadaraError ScopedResult) :
    (switchPost k c cab key project iv exchange).2.Within cab ∨
      ∃ session user old result, switchAsk k cab key project = .ok (session, user, old) ∧
        exchange old (strip project) user.account = .ok result ∧
        (switchPost k c cab key project iv exchange).2.Puts k cab key iv session.userId
          result.token := by
  unfold switchPost switchResult
  cases hask : switchAsk k cab key project with
  | error err => exact .inl (.refl cab)
  | ok asked =>
    obtain ⟨session, user, old⟩ := asked
    dsimp only
    cases hexchange : exchange old (strip project) user.account with
    | error err => exact .inl (.refl cab)
    | ok result =>
      refine .inr ⟨session, user, old, result, rfl, hexchange, ?_, ?_, rfl, rfl⟩
      · intro session' h
        have hnew := (Function.update_self ..).symm.trans h
        rw [← Option.some.inj hnew]
        rfl
      · exact fun other hother session' h => (Function.update_of_ne hother _ _).symm.trans h

theorem holds_of_switchAsk {project : String} {user : User}
    (h : switchAsk k cab key project = .ok (session, user, token)) :
    cab.HoldsFor k session.userId token := by
  refine ⟨key, session, (byId_of_switchAsk h).1, rfl, Vault.holds_of_get ?_⟩
  unfold switchAsk at h
  split at h
  · cases h
  · split at h
    · cases h
    · split_ifs at h
      split at h
      · cases h
      · rename_i hget
        obtain ⟨-, hrest⟩ := Prod.mk.inj (Except.ok.inj h)
        rw [← (Prod.mk.inj hrest).2]
        exact hget

/-! ### Runs -/

/-- Every token that a live session has is its user's own; the induction is on the run. -/
theorem own_of_holdsFor (hnone : ∀ key, cab₀.sessions key = none)
    (hrun : (accounts k t c).Run System.Free cab₀ events cab)
    (hholds : cab.HoldsFor k userId token) :
    OwnToken k t c cab₀ events userId token := by
  induction hrun generalizing userId token with
  | nil =>
    obtain ⟨key, session, hsession, -⟩ := hholds
    rw [hnone key] at hsession
    cases hsession
  | @snoc before cab cab' event hrun _ hstep ih =>
    obtain rfl := Option.some.inj hstep
    have hkept : (serveAccount k t c cab event).Within cab →
      OwnToken k t c cab₀ (before ++ [event]) userId token :=
      fun hwithin => (ih (hwithin.holdsFor hholds)).later
    cases event with
    | changePassword key data ask => exact hkept (within_passwordChange cab key data ask)
    | removeUser userId => exact hkept ⟨fun _ _ h => h, fun _ h => h, le_rfl⟩
    | cabinet event =>
      cases event with
      | setBlocked blocked => exact hkept ⟨fun _ _ h => h, fun _ h => h, le_rfl⟩
      | pass duration => exact hkept ⟨fun _ _ h => h, fun _ h => h, Nat.le_add_right _ _⟩
      | endSession key => exact hkept (within_logout cab key)
      | signIn cookie fresh account project iv cloud =>
        rcases signIn_cases (k := k) (c := c) cab cookie fresh account project iv cloud with
          hwithin | hputs
        · exact hkept hwithin
        · obtain ⟨key, result, hresult, hblocked, hputs⟩ := hputs
          rcases hputs.holdsFor hholds with hold | ⟨rfl, rfl⟩
          · exact (ih hold).later
          · exact .signIn hrun hresult hblocked
      | switch key project iv exchange =>
        rcases switch_cases (k := k) (c := c) cab key project iv exchange with hwithin | hputs
        · exact hkept hwithin
        · obtain ⟨session, user, old, result, hask, hexchange, hputs⟩ := hputs
          rcases hputs.holdsFor hholds with hold | ⟨rfl, rfl⟩
          · exact (ih hold).later
          · exact .exchange hrun hask (ih (holds_of_switchAsk hask)) hexchange

end

/-- **The token of a session is its user's own.**  In every run of sign-ins, switches, password
changes, removals of users and ends of sessions, whatever the vault holds for a live session was
given by the cloud to a sign-in as the user of the session, or in exchange for such a token. -/
theorem own_token_of_run {k : Crypto} {t : PyText} {c : Casing} {cab₀ cab : Cabinet}
    {events : List AccountEvent} (hnone : ∀ key, cab₀.sessions key = none)
    (hrun : (accounts k t c).Run System.Free cab₀ events cab) {key token : String}
    {session : CabinetSession} (hsession : cab.sessions key = some session)
    (htoken : cab.tokenOf k key = some token) :
    OwnToken k t c cab₀ events session.userId token := by
  refine own_of_holdsFor hnone hrun ⟨key, session, hsession, rfl, Vault.holds_of_get ?_⟩
  rwa [Cabinet.tokenOf, hsession] at htoken

/-- The user signs in and switches to another project. -/
def signInAndSwitch : List AccountEvent :=
  [.cabinet (.signIn "" "s1" "Acme" "p1" "" annCloud),
    .cabinet (.switch "s1" "p2" "" fun _ project _ => .ok (annScope project ["tenant_admin"]))]

theorem exists_run_signInAndSwitch : ∃ cab session,
    (accounts sampleCrypto plainText .ascii).Run System.Free emptyCabinet signInAndSwitch cab ∧
      cab.sessions "s1" = some session ∧ session.userId = "u1" ∧
      cab.tokenOf sampleCrypto "s1" = some "token-p2" := by
  have hcab :
    (System.execAll (fun cab event => some (serveAccount sampleCrypto plainText .ascii cab event))
      System.Free [] emptyCabinet signInAndSwitch).map (fun cab =>
        ((cab.sessions "s1").map CabinetSession.userId, cab.tokenOf sampleCrypto "s1")) =
      some (some "u1", some "token-p2") := by decide +kernel
  obtain ⟨cab, hexec, hpair⟩ := Option.map_eq_some_iff.1 hcab
  obtain ⟨huser, htoken⟩ := Prod.mk.inj hpair
  obtain ⟨session, hsession, huser⟩ := Option.map_eq_some_iff.1 huser
  exact ⟨cab, session, System.Run.of_exec hexec, hsession, huser, htoken⟩

theorem own_token_of_run_ann :
    OwnToken sampleCrypto plainText .ascii emptyCabinet signInAndSwitch "u1" "token-p2" := by
  obtain ⟨cab, session, hrun, hsession, huser, htoken⟩ := exists_run_signInAndSwitch
  rw [← huser]
  exact own_token_of_run (fun _ => rfl) hrun hsession htoken

end OpenCloud
