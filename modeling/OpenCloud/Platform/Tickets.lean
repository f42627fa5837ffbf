import OpenCloud.Platform.Passwords

/-!
# No session without the password

A session is started by step 2 alone, for a ticket of the cache; a ticket of the cache was put there
by step 1, after the password.  What happens in between, to the row or to the ticket, can only take
the ticket away.

## Main results

* `loginPost_cases` : step 1 gives a ticket only for the password of an active operator who is not
  locked.
* `earned_of_run` : every session goes back to a request of step 2 with such a ticket.
-/

namespace OpenCloud

/-- At the moment `issued`, in the run before, a request of step 1 was answered with this ticket:
its operator was active and not locked, and the password was theirs. -/
def PasswordGiven (k : Crypto) (c : Casing) (isAlpha : Char → Bool) (desk₀ : Desk)
    (requests : List OperatorRequest) (ticket : String) (pk : ℕ) (issued : Instant) : Prop :=
  ∃ before after desk email password secret iv admin,
    requests = before ++ .signIn (.login email password ticket secret iv) :: after ∧
    (operators k c isAlpha).Run System.Free desk₀ before desk ∧ desk.now = issued ∧
    desk.admins.byEmail (c.lower (strip email)) = some admin ∧ admin.pk = pk ∧
    admin.isActive = true ∧ admin.isLocked desk.now = false ∧ admin.checkPassword k password = true

/-- A request of step 2, in the run before, started the session: the operator was active and not
locked, the second factor accepted the code, and the ticket was given for the password of the same
operator at most 240 seconds before. -/
def Earned (k : Crypto) (c : Casing) (isAlpha : Char → Bool) (desk₀ : Desk)
    (requests : List OperatorRequest) (session : Session) : Prop :=
  ∃ before after desk ticket code ip iv payload admin issued,
    requests = before ++ .signIn (.verify ticket code ip iv) :: after ∧
    (operators k c isAlpha).Run System.Free desk₀ before desk ∧
    session = ⟨admin.pk, desk.now + seconds sessionSeconds⟩ ∧
    Ticket.load desk.tickets desk.now (strip ticket) = some payload ∧ payload.adminId = admin.pk ∧
    admin ∈ desk.admins.rows ∧ admin.isActive = true ∧ admin.isLocked desk.now = false ∧
    (secondFactor k admin desk.usedCodes desk.now payload (strip code)).1 = true ∧
    PasswordGiven k c isAlpha desk₀ before (strip ticket) admin.pk issued ∧
    issued ≤ desk.now ∧ desk.now ≤ issued + seconds 240

section

variable {k : Crypto} {c : Casing} {isAlpha : Char → Bool} {desk₀ desk desk' : Desk}
  {requests : List OperatorRequest}

/-! ### One request -/

/-- Step 1 keeps the sessions and the tickets, or gives a ticket for the password of an active
operator who is not locked. -/
theorem loginPost_cases (k : Crypto) (c : Casing) (desk : Desk)
    (email password ticket secret iv : String) :
    (loginPost k c desk email password ticket secret iv).2.sessions = desk.sessions ∧
    (loginPost k c desk email password ticket secret iv).2.now = desk.now ∧
    ((loginPost k c desk email password ticket secret iv).2.tickets = desk.tickets ∨
      ∃ admin payload, desk.admins.byEmail (c.lower (strip email)) = some admin ∧
        admin.isActive = true ∧
        admin.isLocked desk.now = false ∧ admin.checkPassword k password = true ∧
        payload.adminId = admin.pk ∧
          (loginPost k c desk email password ticket secret iv).2.tickets =
          Ticket.issue desk.tickets desk.now ticket payload) := by
  unfold loginPost
  dsimp only
  cases hadmin : desk.admins.byEmail (c.lower (strip email)) with
  | none => exact ⟨rfl, rfl, .inl rfl⟩
  | some admin =>
    dsimp only
    split_ifs with hactive hlocked hpassword hcode hconfirmed
    · exact ⟨rfl, rfl, .inl rfl⟩
    · exact ⟨rfl, rfl, .inl rfl⟩
    · exact ⟨rfl, rfl, .inl rfl⟩
    · exact ⟨rfl, rfl, .inr ⟨admin, _, rfl, by simpa using hactive, by simpa using hlocked,
        by simpa using hpassword, rfl, rfl⟩⟩
    · exact ⟨rfl, rfl, .inr ⟨admin, _, rfl, by simpa using hactive, by simpa using hlocked,
        by simpa using hpassword, rfl, rfl⟩⟩
    · exact ⟨rfl, rfl, .inr ⟨admin, _, rfl, by simpa using hactive, by simpa using hlocked,
        by simpa using hpassword, rfl, rfl⟩⟩

theorem sessions_signedIn (k : Crypto) (desk : Desk) (ticket : String) (payload : Ticket)
    (admin : PlatformAdmin) (ip : Option String) (iv : String) :
    (signedIn k desk ticket payload admin ip iv).2.sessions =
      desk.sessions ++ [⟨admin.pk, desk.now + seconds sessionSeconds⟩] := by
  obtain ⟨hsessions, -, hnow⟩ := enroll_frame k desk payload admin iv
  have hpk : (enroll k desk payload admin iv).1.pk = admin.pk := by
    unfold enroll
    cases enrolledSecret k admin payload <;> rfl
  simp [signedIn, Desk.record, Desk.save, Desk.startSession, hsessions, hnow, hpk]

/-- The request gives no ticket and starts no session. -/
structure Quiet (desk desk' : Desk) : Prop where
  tickets : ∀ e ∈ desk'.tickets, e ∈ desk.tickets
  sessions : ∀ s ∈ desk'.sessions, s ∈ desk.sessions
  now : desk.now ≤ desk'.now

theorem quiet_changePassword (session : Session) (current new salt : String) :
    Quiet desk (passwordChangePost k isAlpha desk session current new salt).2 := by
  unfold passwordChangePost
  split
  · exact ⟨fun _ he => he, fun _ hs => List.mem_of_mem_erase hs, le_rfl⟩
  · split_ifs
    · exact ⟨fun _ he => he, fun _ hs => hs, le_rfl⟩
    · split
      · exact ⟨fun _ he => he, fun _ hs => hs, le_rfl⟩
      · exact ⟨fun _ he => he, fun _ hs => hs, le_rfl⟩

theorem quiet_create {email name password salt codeSalt : String} {role : Role}
    {code : Option String}
    (h : createPlatformAdmin k c isAlpha desk email name role password code salt codeSalt =
      .ok desk') :
    Quiet desk desk' := by
  unfold createPlatformAdmin at h
  dsimp only at h
  split at h
  · split at h
    · cases h
    · split at h
      · cases h
        exact ⟨fun _ he => he, fun _ hs => hs, le_rfl⟩
      · split at h
        · cases h
        · cases h
          exact ⟨fun _ he => he, fun _ hs => hs, le_rfl⟩
  · cases h

/-! ### Runs -/

/-- Every ticket goes back to a password, and every session to a ticket. -/
structure Vouched (k : Crypto) (c : Casing) (isAlpha : Char → Bool) (desk₀ : Desk)
    (requests : List OperatorRequest) (desk : Desk) : Prop where
  tickets : ∀ e ∈ desk.tickets, ∃ issued,
    PasswordGiven k c isAlpha desk₀ requests e.key e.value.adminId issued ∧ issued ≤ desk.now ∧
      e.expires = issued + seconds 240
  sessions : ∀ s ∈ desk.sessions, Earned k c isAlpha desk₀ requests s

theorem PasswordGiven.snoc {ticket : String} {pk : ℕ} {issued : Instant} {request : OperatorRequest}
    (h : PasswordGiven k c isAlpha desk₀ requests ticket pk issued) :
    PasswordGiven k c isAlpha desk₀ (requests ++ [request]) ticket pk issued := by
  obtain ⟨before, after, desk, email, password, secret, iv, admin, hrequests, hrest⟩ := h
  refine ⟨before, after ++ [request], desk, email, password, secret, iv, admin, ?_, hrest⟩
  rw [hrequests, List.append_assoc, List.cons_append]

theorem Earned.snoc {session : Session} {request : OperatorRequest}
    (h : Earned k c isAlpha desk₀ requests session) :
    Earned k c isAlpha desk₀ (requests ++ [request]) session := by
  obtain ⟨before, after, desk, ticket, code, ip, iv, payload, admin, issued, hrequests, hrest⟩ := h
  refine ⟨before, after ++ [request], desk, ticket, code, ip, iv, payload, admin, issued, ?_, hrest⟩
  rw [hrequests, List.append_assoc, List.cons_append]

theorem Vouched.of_quiet {request : OperatorRequest} (h : Vouched k c isAlpha desk₀ requests desk)
    (hquiet : Quiet desk desk') : Vouched k c isAlpha desk₀ (requests ++ [request]) desk' := by
  refine ⟨fun e he => ?_, fun s hs => (h.sessions s (hquiet.sessions s hs)).snoc⟩
  obtain ⟨issued, hgiven, hle, hexpires⟩ := h.tickets e (hquiet.tickets e he)
  exact ⟨issued, hgiven.snoc, hle.trans hquiet.now, hexpires⟩

theorem Vouched.login {email password ticket secret iv : String}
    (h : Vouched k c isAlpha desk₀ requests desk)
    (hrun : (operators k c isAlpha).Run System.Free desk₀ requests desk) :
    Vouched k c isAlpha desk₀ (requests ++ [.signIn (.login email password ticket secret iv)])
      (loginPost k c desk email password ticket secret iv).2 := by
  obtain ⟨hsessions, hnow,
    htickets | ⟨admin, payload, hadmin, hactive, hlocked, hpassword, hpk, htickets⟩⟩ :=
    loginPost_cases k c desk email password ticket secret iv
  · exact h.of_quiet ⟨fun e he => htickets ▸ he, fun s hs => hsessions ▸ hs, hnow.ge⟩
  · refine ⟨fun e he => ?_, fun s hs => (h.sessions s (hsessions ▸ hs)).snoc⟩
    rw [htickets] at he
    rw [hnow]
    rcases Cache.mem_set he with rfl | ⟨he, -⟩
    · exact ⟨desk.now,
        ⟨requests, [], desk, email, password, secret, iv, admin, rfl, hrun, rfl, hadmin,
        hpk.symm, hactive, hlocked, hpassword⟩, le_rfl, rfl⟩
    · obtain ⟨issued, hgiven, hle, hexpires⟩ := h.tickets e he
      exact ⟨issued, hgiven.snoc, hle, hexpires⟩

/-- Step 2 vouches for the session it starts. -/
theorem Vouched.verify {ticket code iv : String} {ip : Option String}
    (h : Vouched k c isAlpha desk₀ requests desk)
    (hrun : (operators k c isAlpha).Run System.Free desk₀ requests desk) :
    Vouched k c isAlpha desk₀ (requests ++ [.signIn (.verify ticket code ip iv)])
      (loginVerifyPost k desk ticket code ip iv).2 := by
  rcases loginVerifyPost_cases k desk ticket code ip iv with ⟨hsessions, hnow, -, htickets⟩ |
    ⟨payload, admin, hload, hrow, hlocked, haccepted⟩
  · exact h.of_quiet ⟨htickets, fun s hs => hsessions ▸ hs, hnow.ge⟩
  · obtain ⟨hadmin, hpk, hactive⟩ := OperatorTable.activeByPk_eq_some hrow
    obtain ⟨e, he, hkey, hvalue, halive⟩ := exists_of_load hload
    obtain ⟨issued, hgiven, hle, hexpires⟩ := h.tickets e he
    have hgiven' : PasswordGiven k c isAlpha desk₀ requests (strip ticket) admin.pk issued := by
      rw [← hkey, hpk, ← hvalue]
      exact hgiven
    rw [loginVerifyPost_of_accepted hload hrow hlocked haccepted]
    obtain ⟨-, htickets, hnow⟩ := signedIn_frame k { desk with
      usedCodes := (secondFactor k admin desk.usedCodes desk.now payload (strip code)).2 }
      (strip ticket) payload admin ip iv
    refine ⟨fun e' he' => ?_, fun s hs => ?_⟩
    · rw [htickets] at he'
      rw [hnow]
      obtain ⟨issued', hgiven', hle', hexpires'⟩ := h.tickets e' (Cache.mem_delete.1 he').1
      exact ⟨issued', hgiven'.snoc, hle', hexpires'⟩
    · rw [sessions_signedIn] at hs
      rcases List.mem_append.1 hs with hs | hs
      · exact (h.sessions s hs).snoc
      · -- the ticket was alive, so it was given at most 240 seconds ago
        refine ⟨requests, [], desk, ticket, code, ip, iv, payload, admin, issued, rfl, hrun,
          List.mem_singleton.1 hs, hload, hpk.symm, hadmin, hactive, hlocked, haccepted, hgiven',
            hle, ?_⟩
        rw [← hexpires]
        exact halive.le

/-- Every request keeps the tickets and sessions vouched for. -/
theorem Vouched.step {request : OperatorRequest} (h : Vouched k c isAlpha desk₀ requests desk)
    (hrun : (operators k c isAlpha).Run System.Free desk₀ requests desk) :
    Vouched k c isAlpha desk₀ (requests ++ [request])
      (serveOperators k c isAlpha desk request) := by
  cases request with
  | signIn request =>
    cases request with
    | login email password ticket secret iv => exact h.login hrun
    | verify ticket code ip iv => exact h.verify hrun
    | setCode email code salt =>
      rw [serveOperators, serveSignIn]
      cases hset : setPlatformAdminCode k c desk email code salt with
      | error _ => exact h.of_quiet ⟨fun _ he => he, fun _ hs => hs, le_rfl⟩
      | ok desk' =>
        obtain ⟨pk, copy, rfl⟩ := setPlatformAdminCode_eq_ok hset
        exact h.of_quiet ⟨fun _ he => he, fun _ hs => hs, le_rfl⟩
    | pass duration => exact h.of_quiet ⟨fun _ he => he, fun _ hs => hs, Nat.le_add_right _ _⟩
  | changePassword session current new salt =>
    exact h.of_quiet (quiet_changePassword session current new salt)
  | create email name role password code salt codeSalt =>
    rw [serveOperators]
    cases hcreate :
      createPlatformAdmin k c isAlpha desk email name role password code salt codeSalt with
    | error _ => exact h.of_quiet ⟨fun _ he => he, fun _ hs => hs, le_rfl⟩
    | ok desk' => exact h.of_quiet (quiet_create hcreate)
  | setActive pk active => exact h.of_quiet ⟨fun _ he => he, fun _ hs => hs, le_rfl⟩
  | evict ticket => exact h.of_quiet ⟨fun _ he => (Cache.mem_delete.1 he).1, fun _ hs => hs, le_rfl⟩

end

/-- **No session without the password.**  In every run from a desk without tickets and sessions,
every session was earned. -/
theorem earned_of_run {k : Crypto} {c : Casing} {isAlpha : Char → Bool} {desk₀ desk : Desk}
    {requests : List OperatorRequest} (htickets : desk₀.tickets = [])
    (hsessions : desk₀.sessions = [])
    (hrun : (operators k c isAlpha).Run System.Free desk₀ requests desk) :
    ∀ session ∈ desk.sessions, Earned k c isAlpha desk₀ requests session := by
  have hvouched : Vouched k c isAlpha desk₀ requests desk := by
    induction hrun with
    | nil => exact ⟨by simp [htickets], by simp [hsessions]⟩
    | snoc hrun _ hstep ih =>
      obtain rfl := Option.some.inj hstep
      exact ih.step hrun
  exact hvouched.sessions

/-- A sign-in with both factors. -/
def ownSignIn : List OperatorRequest :=
  [.signIn (.login "owner@opencloud.uz" "pw" "t1" "S1" ""), .signIn (.pass 1000000),
    .signIn (.verify "t1" "111111" none "")]

theorem earned_of_run_owner :
    ∃ desk : Desk, desk.sessions.length = 1 ∧ ∀ session ∈ desk.sessions,
      Earned sampleCrypto .ascii Char.isAlpha freshDesk ownSignIn session := by
  have hlength : (System.execAll (fun desk request =>
      some (serveOperators sampleCrypto .ascii Char.isAlpha desk request)) System.Free [] freshDesk
      ownSignIn).map (fun desk => desk.sessions.length) = some 1 := by decide +kernel
  obtain ⟨desk, hexec, hone⟩ := Option.map_eq_some_iff.1 hlength
  exact ⟨desk, hone, earned_of_run rfl rfl (System.Run.of_exec hexec)⟩

end OpenCloud
