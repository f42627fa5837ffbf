import OpenCloud.Accounts.Sessions
import OpenCloud.Lib.Runs
import OpenCloud.Platform.SignIn

/-!
# Whose role a request has

The role that `IsAdmin` enforces sits on the user's row, and every sign-in and every project switch
of the user writes it, in whichever session.  A session keeps the roles of its own token, which
nothing enforces.

## Main results

* `admin_iff_last_scope` : `IsAdmin` admits a session exactly if the token its user obtained last,
  in any session, is an administrator's.
-/

namespace OpenCloud

/-- What happens at the cabinet; the cloud's answers and the random draws are part of the event. -/
inductive CabinetEvent where
  /-- `LoginView.post`. -/
  | signIn (cookie fresh account project iv : String) (cloud : SignInCloud)
  /-- `ProjectSwitchView.post`. -/
  | switch (key project iv : String) (exchange : String → String → String →
    Except ZadaraError ScopedResult)
  /-- The statuses of the rows change. -/
  | setBlocked (blocked : List String)
  /-- `LogoutView.post`; a session that expires does so with its token. -/
  | endSession (key : String)
  /-- Time passes. -/
  | pass (duration : ℕ)

/-- The cabinet after an event. -/
def serveCabinet (k : Crypto) (c : Casing) (cab : Cabinet) : CabinetEvent → Cabinet
  | .signIn cookie fresh account project iv cloud =>
    (cabinetLoginPost k c cab cookie fresh account project iv cloud).2
  | .switch key project iv exchange => (switchPost k c cab key project iv exchange).2
  | .setBlocked blocked => { cab with blocked := blocked }
  | .endSession key => { cab with
      sessions := Function.update cab.sessions key none, vault := Vault.delete cab.vault key }
  | .pass duration => { cab with now := cab.now + duration }

/-- The user that obtains a token at an event, and its roles.  A blocked user obtains one too. -/
def scopeTaken (k : Crypto) (cab : Cabinet) : CabinetEvent → Option (String × List String)
  | .signIn _ _ account project _ cloud =>
    match cloud.result (strip account) project with
    | .ok result => some (result.userId, result.roles)
    | .error _ => none
  | .switch key project _ exchange =>
    match switchResult k cab key project exchange with
    | .ok (session, _, result) => some (session.userId, result.roles)
    | .error _ => none
  | _ => none

/-- The cabinet and the tokens obtained so far, in order. -/
structure CabinetLog where
  cab : Cabinet
  scopes : List (String × List String)

/-- The log after an event. -/
def CabinetLog.serve (k : Crypto) (c : Casing) (log : CabinetLog) (event : CabinetEvent) :
    CabinetLog where
  cab := serveCabinet k c log.cab event
  scopes := log.scopes ++ (scopeTaken k log.cab event).toList

/-- The cabinet over time. -/
def cabinet (k : Crypto) (c : Casing) : System CabinetLog CabinetEvent :=
  System.ofExec fun log event => some (log.serve k c event)

/-- The roles of the token the user obtained last. -/
def lastScope (scopes : List (String × List String)) (userId : String) : Option (List String) :=
  (scopes.filter fun scope => scope.1 = userId).getLast?.map Prod.snd

section

variable {k : Crypto} {c : Casing} {cab : Cabinet} {log : CabinetLog} {event : CabinetEvent}
  {scopes : List (String × List String)} {userId id : String} {roles : List String}

theorem lastScope_append : lastScope (scopes ++ [(userId, roles)]) id =
    if userId = id then some roles else lastScope scopes id := by
  unfold lastScope
  rw [List.filter_append]
  split_ifs with hid
  · simp [hid]
  · simp [hid]

/-! ### One event -/

/-- A user obtains a token: the row gets its role, and the only new session is the user's. -/
structure Takes (c : Casing) (cab cab' : Cabinet) (userId : String) (roles : List String) :
    Prop where
  role : ∀ id, cab'.users.roleOf id =
    if userId = id then some (resolveAppRole c roles) else cab.users.roleOf id
  sessions : ∀ key session, cab'.sessions key = some session →
    session.userId = userId ∨ cab.sessions key = some session

/-- No role changes, and no session is new. -/
structure Leaves (cab cab' : Cabinet) : Prop where
  role : ∀ id, cab'.users.roleOf id = cab.users.roleOf id
  sessions : ∀ key session, cab'.sessions key = some session → cab.sessions key = some session

theorem login_spec (cab : Cabinet) (cookie fresh userId : String) :
    (cab.login cookie fresh userId).2.1.userId = userId ∧
    (cab.login cookie fresh userId).2.2.users = cab.users ∧
    ∀ key session, (cab.login cookie fresh userId).2.2.sessions key = some session →
      cab.sessions key = some session := by
  unfold Cabinet.login
  dsimp only
  split
  · rename_i session hcookie
    split_ifs with hsame
    · exact ⟨hsame, rfl, fun _ _ h => h⟩
    · refine ⟨rfl, rfl, fun key other h => ?_⟩
      by_cases hkey : key = cookie
      · simp [hkey] at h
      · simpa [hkey] using h
  · exact ⟨rfl, rfl, fun _ _ h => h⟩

theorem takes_applyScope (key : String) {user : User} {session : CabinetSession}
    (result : ScopedResult) (hrow : cab.users.byId user.userId = some user)
    (huser : session.userId = user.userId) :
    Takes c cab (cab.applyScope c key user session result) user.userId result.roles := by
  refine ⟨fun id => UserTable.roleOf_syncRole hrow, fun key' other h => ?_⟩
  by_cases hkey : key' = key
  · subst hkey
    rw [Cabinet.sessions_applyScope, Function.update_self] at h
    exact .inl (Option.some.inj h ▸ huser)
  · rw [Cabinet.sessions_applyScope, Function.update_of_ne hkey] at h
    exact .inr h

/-- A sign-in the cloud accepts. -/
theorem takes_signIn {cookie fresh account project iv : String} {cloud : SignInCloud}
    {result : ScopedResult} (hresult : cloud.result (strip account) project = .ok result) :
    Takes c cab (cabinetLoginPost k c cab cookie fresh account project iv cloud).2 result.userId
      result.roles := by
  have hupsert : ∀ id, (upsertUser c cab.users result.toAuthResult).roleOf id =
      if result.userId = id then some (resolveAppRole c result.roles) else cab.users.roleOf id :=
    fun id => UserTable.roleOf_upsertUser
  unfold cabinetLoginPost
  rw [hresult]
  dsimp only
  split_ifs with hblocked
  · exact ⟨hupsert, fun _ _ h => .inr h⟩
  · let cab₁ : Cabinet := { cab with users := upsertUser c cab.users result.toAuthResult }
    obtain ⟨huser, husers, hsessions⟩ := login_spec cab₁ cookie fresh result.userId
    have hrow : (cab₁.login cookie fresh result.userId).2.2.users.byId
        (result.toAuthResult.user c).userId = some (result.toAuthResult.user c) := by
      rw [husers]
      exact UserTable.byId_upsertUser
    obtain ⟨hrole, hnew⟩ : Takes c _ _ _ _ :=
      takes_applyScope (cab₁.login cookie fresh result.userId).1 result hrow huser
    refine ⟨fun id => ?_, fun key session h => ?_⟩
    · -- the row has the role by now, and the scope gives it again
      refine (hrole id).trans ?_
      rw [husers, hupsert]
      by_cases hid : result.userId = id
      · rw [if_pos hid]
        exact if_pos hid
      · rw [if_neg hid]
        exact if_neg hid
    · rcases hnew key session h with hsession | hold
      · exact .inl hsession
      · exact .inr (hsessions key session hold)

/-- A project switch. -/
theorem takes_switch {key project iv : String}
    {exchange : String → String → String → Except ZadaraError ScopedResult}
    {session : CabinetSession} {user : User} {result : ScopedResult}
    (hresult : switchResult k cab key project exchange = .ok (session, user, result)) :
    Takes c cab (switchPost k c cab key project iv exchange).2 session.userId result.roles := by
  obtain ⟨huser, hrow⟩ : user.userId = session.userId ∧ cab.users.byId user.userId = some user := by
    unfold switchResult at hresult
    cases hask : switchAsk k cab key project with
    | error err => simp [hask] at hresult
    | ok triple =>
      obtain ⟨session', user', token⟩ := triple
      rw [hask] at hresult
      dsimp only at hresult
      split at hresult
      · cases hresult
      · obtain ⟨rfl, hrest⟩ := Prod.mk.inj (Except.ok.inj hresult)
        obtain ⟨rfl, -⟩ := Prod.mk.inj hrest
        exact (byId_of_switchAsk hask).2
  unfold switchPost
  rw [hresult]
  obtain ⟨hrole, hsessions⟩ : Takes c _ _ _ _ := takes_applyScope key result hrow huser.symm
  rw [← huser]
  exact ⟨hrole, hsessions⟩

/-- At an event at which a user obtains a token. -/
theorem takes_of_some (h : scopeTaken k cab event = some (userId, roles)) :
    Takes c cab (serveCabinet k c cab event) userId roles := by
  cases event with
  | signIn cookie fresh account project iv cloud =>
    rw [scopeTaken] at h
    cases hresult : cloud.result (strip account) project with
    | error err => simp [hresult] at h
    | ok result =>
      rw [hresult] at h
      obtain ⟨rfl, rfl⟩ := Prod.mk.inj (Option.some.inj h)
      exact takes_signIn hresult
  | switch key project iv exchange =>
    rw [scopeTaken] at h
    cases hresult : switchResult k cab key project exchange with
    | error err => simp [hresult] at h
    | ok triple =>
      obtain ⟨session, user, result⟩ := triple
      rw [hresult] at h
      obtain ⟨rfl, rfl⟩ := Prod.mk.inj (Option.some.inj h)
      exact takes_switch hresult
  | setBlocked blocked => cases h
  | endSession key => cases h
  | pass duration => cases h

/-- At any other event. -/
theorem leaves_of_none (h : scopeTaken k cab event = none) :
    Leaves cab (serveCabinet k c cab event) := by
  cases event with
  | signIn cookie fresh account project iv cloud =>
    rw [scopeTaken] at h
    rw [serveCabinet, cabinetLoginPost]
    cases hresult : cloud.result (strip account) project with
    | error err => exact ⟨fun _ => rfl, fun _ _ h => h⟩
    | ok result => simp [hresult] at h
  | switch key project iv exchange =>
    rw [scopeTaken] at h
    rw [serveCabinet, switchPost]
    cases hresult : switchResult k cab key project exchange with
    | error err => exact ⟨fun _ => rfl, fun _ _ h => h⟩
    | ok triple => simp [hresult] at h
  | setBlocked blocked => exact ⟨fun _ => rfl, fun _ _ h => h⟩
  | endSession key =>
    refine ⟨fun _ => rfl, fun key' session h => ?_⟩
    by_cases hkey : key' = key
    · simp [serveCabinet, hkey] at h
    · simpa [serveCabinet, hkey] using h
  | pass duration => exact ⟨fun _ => rfl, fun _ _ h => h⟩

/-! ### Runs -/

/-- The row of a user who obtained a token has the role of the last one, and the user of every
session obtained one. -/
structure CabinetLog.Traced (c : Casing) (log : CabinetLog) : Prop where
  role : ∀ userId roles, lastScope log.scopes userId = some roles →
    log.cab.users.roleOf userId = some (resolveAppRole c roles)
  sessions : ∀ key session, log.cab.sessions key = some session →
    ∃ roles, lastScope log.scopes session.userId = some roles

theorem CabinetLog.Traced.step (h : log.Traced c) : (log.serve k c event).Traced c := by
  cases htaken : scopeTaken k log.cab event with
  | none =>
    have hleaves := leaves_of_none (c := c) htaken
    have hscopes : (log.serve k c event).scopes = log.scopes := by
      rw [CabinetLog.serve, htaken]
      exact List.append_nil _
    refine ⟨fun userId roles hlast => ?_, fun key session hsession => ?_⟩
    · rw [hscopes] at hlast
      exact (hleaves.role userId).trans (h.role userId roles hlast)
    · rw [hscopes]
      exact h.sessions key session (hleaves.sessions key session hsession)
  | some scope =>
    obtain ⟨userId, roles⟩ := scope
    have htakes := takes_of_some (c := c) htaken
    have hscopes : (log.serve k c event).scopes = log.scopes ++ [(userId, roles)] := by
      rw [CabinetLog.serve, htaken]
      rfl
    refine ⟨fun id roles' hlast => ?_, fun key session hsession => ?_⟩
    · rw [hscopes, lastScope_append] at hlast
      refine (htakes.role id).trans ?_
      split_ifs at hlast ⊢
      · rw [Option.some.inj hlast]
      · exact h.role id roles' hlast
    · rw [hscopes]
      simp only [lastScope_append]
      split_ifs with hid
      · exact ⟨roles, rfl⟩
      · rcases htakes.sessions key session hsession with huser | hold
        · exact absurd huser.symm hid
        · exact h.sessions key session hold

end

/-- **A request has the role of the user's last token.**  In every run from a cabinet without
sessions, `IsAdmin` admits a live session exactly if the roles of the token that its user obtained
last, in whichever session, are an administrator's.  These are the session's own roles as far as the
two give one role. -/
theorem admin_iff_last_scope {k : Crypto} {c : Casing} {cab₀ : Cabinet} {events : List CabinetEvent}
    {log : CabinetLog} (hnone : ∀ key, cab₀.sessions key = none)
    (hrun : (cabinet k c).Run System.Free ⟨cab₀, []⟩ events log) :
    ∀ key session, log.cab.sessions key = some session →
      ∃ roles, lastScope log.scopes session.userId = some roles ∧
        (log.cab.isAdmin key = true ↔ resolveAppRole c roles = .admin) ∧
        ((log.cab.isAdmin key = true ↔ resolveAppRole c session.roles = .admin) ↔
          resolveAppRole c session.roles = resolveAppRole c roles) := by
  have htraced : log.Traced c := by
    refine hrun.keeps ⟨?_, ?_⟩ fun log event _ h hstep => ?_
    · rintro _ _ ⟨⟩
    · intro key session hsession
      rw [hnone key] at hsession
      cases hsession
    · obtain rfl := Option.some.inj hstep
      exact h.step
  intro key session hsession
  obtain ⟨roles, hlast⟩ := htraced.sessions key session hsession
  have hadmin : log.cab.isAdmin key = true ↔ resolveAppRole c roles = .admin := by
    rw [Cabinet.isAdmin, hsession]
    dsimp only
    rw [htraced.role _ _ hlast, decide_eq_true_eq, Option.some.injEq]
  refine ⟨roles, hlast, hadmin, ?_⟩
  rw [hadmin]
  -- there are two roles
  cases resolveAppRole c roles <;> cases resolveAppRole c session.roles <;> decide

/-! ### Two browsers of one user -/

/-- A cabinet before the first sign-in. -/
def emptyCabinet : Cabinet := ⟨.empty, [], fun _ => none, [], 0⟩

/-- A token of a user of the account Acme, for a project. -/
def annScope (project : String) (roles : List String) : ScopedResult :=
  ⟨⟨"u1", "ann", none, some "d1", "Acme", roles⟩, "token-" ++ project, "project", some project,
    some project⟩

/-- A cloud that accepts the user as a member of the project `p1`. -/
def annCloud : SignInCloud :=
  ⟨.ok (annScope "p1" ["_member_"]), .ok [],
    fun _ _ _ => .error ⟨"forbidden", "You cannot access this project"⟩⟩

/-- The user signs in from two browsers, and in the second one switches to a project she
administers. -/
def twoBrowsers : List CabinetEvent :=
  [.signIn "" "s1" "Acme" "p1" "" annCloud, .signIn "" "s2" "Acme" "p1" "" annCloud,
    .switch "s2" "p2" "" fun _ project _ => .ok (annScope project ["tenant_admin"])]

/-- The first browser's session is a member's, and its requests are admitted as an
administrator's. -/
theorem member_admitted :
    ∃ log session, (cabinet sampleCrypto .ascii).Run System.Free
      ⟨emptyCabinet, []⟩ twoBrowsers log ∧
      log.cab.sessions "s1" = some session ∧ session.roles = ["_member_"] ∧
      resolveAppRole .ascii session.roles = .user ∧ log.cab.isAdmin "s1" = true := by
  have hlog :
    (System.execAll (fun log event => some (CabinetLog.serve sampleCrypto .ascii log event))
      System.Free [] ⟨emptyCabinet, []⟩ twoBrowsers).map (fun log =>
        ((log.cab.sessions "s1").map CabinetSession.roles, log.cab.isAdmin "s1")) =
      some (some ["_member_"], true) := by decide +kernel
  obtain ⟨log, hexec, hpair⟩ := Option.map_eq_some_iff.1 hlog
  obtain ⟨hroles, hadmin⟩ := Prod.mk.inj hpair
  obtain ⟨session, hsession, hmember⟩ := Option.map_eq_some_iff.1 hroles
  refine ⟨log, session, System.Run.of_exec hexec, hsession, hmember, ?_, hadmin⟩
  rw [hmember]
  decide +kernel

theorem admin_iff_last_scope_ann :
    ∃ log : CabinetLog, log.cab.isAdmin "s1" = true ∧
      ∀ key session, log.cab.sessions key = some session →
        ∃ roles, lastScope log.scopes session.userId = some roles ∧
          (log.cab.isAdmin key = true ↔ resolveAppRole .ascii roles = .admin) ∧
          ((log.cab.isAdmin key = true ↔ resolveAppRole .ascii session.roles = .admin) ↔
            resolveAppRole .ascii session.roles = resolveAppRole .ascii roles) := by
  have hadmin :
    (System.execAll (fun log event => some (CabinetLog.serve sampleCrypto .ascii log event))
      System.Free [] ⟨emptyCabinet, []⟩ twoBrowsers).map (fun log => log.cab.isAdmin "s1") =
        some true := by
    decide +kernel
  obtain ⟨log, hexec, hfirst⟩ := Option.map_eq_some_iff.1 hadmin
  exact ⟨log, hfirst, admin_iff_last_scope (fun _ => rfl) (System.Run.of_exec hexec)⟩

end OpenCloud
