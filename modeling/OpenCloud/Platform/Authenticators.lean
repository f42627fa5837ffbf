import OpenCloud.Lib.Runs
import OpenCloud.Platform.SignIn

/-!
# What sign-in does to an authenticator

An operator whose authenticator is confirmed keeps it, and no session starts without one of its
codes. Step 2 upholds this but for one kind of request: a ticket from before the confirmation still
enrols, with the secret it holds, over the authenticator that was confirmed meanwhile
(`enrolled_twice`).

## Main results

* `keepsAuthenticator_iff` : one request keeps a confirmed authenticator exactly when it is not of
  this kind.
* `keepsAuthenticator_of_run` : a run keeps it at every request exactly when none is of this kind.
* `keepsAuthenticator_of_sole` : none is, if enrolling tickets are redeemed only while the operator
  has no other one.
-/

namespace OpenCloud

/-- What happens at the sign-in desk; the random draws are part of the request. -/
inductive SignInRequest where
  | login (email password ticket secret iv : String)
  | verify (ticket code : String) (ip : Option String) (iv : String)
  /-- `setplatformadmincode`. -/
  | setCode (email : String) (code : Option String) (salt : String)
  /-- Time passes. -/
  | pass (duration : ℕ)

/-- The desk after a request. -/
def serveSignIn (k : Crypto) (c : Casing) (desk : Desk) : SignInRequest → Desk
  | .login email password ticket secret iv => (loginPost k c desk email password ticket secret iv).2
  | .verify ticket code ip iv => (loginVerifyPost k desk ticket code ip iv).2
  | .setCode email code salt =>
    match setPlatformAdminCode k c desk email code salt with
    | .ok desk' => desk'
    | .error _ => desk
  | .pass duration => { desk with now := desk.now + duration }

/-- The sign-in desk over time. -/
def signIn (k : Crypto) (c : Casing) : System Desk SignInRequest :=
  System.ofExec fun desk request => some (serveSignIn k c desk request)

/-- At a request of step 2 for an operator whose authenticator is confirmed, a session starts only
if the code verifies against the secret on the row, and the secret stays. -/
def KeepsAuthenticator (k : Crypto) (desk desk' : Desk) : SignInRequest → Prop
  | .verify ticket code _ _ => ∀ payload, ∀ admin ∈ desk.admins.rows,
    Ticket.load desk.tickets desk.now (strip ticket) = some payload → admin.pk = payload.adminId →
    admin.Confirmed k →
      (desk'.sessions ≠ desk.sessions → ∃ secret, admin.storedSecret k = some secret ∧
        (Totp.verify k desk.usedCodes desk.now secret (strip code) admin.pk).1 = true) ∧
      ∀ admin' ∈ desk'.admins.rows, admin'.pk = admin.pk →
        admin'.storedSecret k = admin.storedSecret k
  | _ => True

/-- The request does not present an enrolling ticket, with a code of the ticket's own secret, for an
operator on another authenticator. -/
def NotReplacing (k : Crypto) (desk : Desk) : SignInRequest → Prop
  | .verify ticket code _ _ => ∀ payload, ∀ admin ∈ desk.admins.rows, ∀ secret,
    Ticket.load desk.tickets desk.now (strip ticket) = some payload → admin.pk = payload.adminId →
    admin.isActive = true → admin.isLocked desk.now = false → admin.Confirmed k →
    payload.enrolling = true → Totp.decrypt k (payload.pendingSecret.getD "") = some secret →
    (Totp.verify k desk.usedCodes desk.now secret (strip code) admin.pk).1 = true →
      admin.storedSecret k = some secret
  | _ => True

variable {k : Crypto} {c : Casing} {desk desk' : Desk} {payload : Ticket} {admin : PlatformAdmin}

/-! ### One request -/

theorem secondFactor_of_confirmed {used : UsedCodes} {now : Instant} {code : String}
    (hconfirmed : admin.Confirmed k) : (secondFactor k admin used now payload code).1 = true ↔
      ∃ secret, checkedSecret k admin payload = some secret ∧
        (Totp.verify k used now secret code admin.pk).1 = true := by
  unfold secondFactor
  rw [hconfirmed.2.2]
  simp only [Bool.false_eq_true, ↓reduceIte]
  cases checkedSecret k admin payload with
  | none => simp
  | some secret => simp

section SignedIn

variable {ticket iv : String} {ip : Option String}

theorem enroll_frame (k : Crypto) (desk : Desk) (payload : Ticket) (admin : PlatformAdmin)
    (iv : String) :
    (enroll k desk payload admin iv).2.sessions = desk.sessions ∧
    (enroll k desk payload admin iv).2.tickets = desk.tickets ∧
    (enroll k desk payload admin iv).2.now = desk.now := by
  unfold enroll
  cases enrolledSecret k admin payload <;> exact ⟨rfl, rfl, rfl⟩

theorem signedIn_frame (k : Crypto) (desk : Desk) (ticket : String) (payload : Ticket)
    (admin : PlatformAdmin) (ip : Option String) (iv : String) :
    (signedIn k desk ticket payload admin ip iv).2.sessions ≠ desk.sessions ∧
    (signedIn k desk ticket payload admin ip iv).2.tickets = Ticket.revoke desk.tickets ticket ∧
    (signedIn k desk ticket payload admin ip iv).2.now = desk.now := by
  obtain ⟨hsessions, htickets, hnow⟩ := enroll_frame k desk payload admin iv
  refine ⟨fun h => ?_, ?_, ?_⟩
  · have hlength := congrArg List.length h
    simp [signedIn, Desk.record, Desk.save, Desk.startSession, hsessions] at hlength
  · simp [signedIn, Desk.record, Desk.save, Desk.startSession, htickets]
  · simp [signedIn, Desk.record, Desk.save, Desk.startSession, hnow]

theorem admins_enroll {secret : String} (henrolled : enrolledSecret k admin payload = some secret) :
    ∃ copy : PlatformAdmin, copy.storedSecret k = some secret ∧
      (enroll k desk payload admin iv).2.admins =
        desk.admins.save admin.pk copy.saveTotp (keepsIdentity_saveTotp copy) := by
  simp only [enroll, henrolled]
  refine ⟨_, ?_, rfl⟩
  exact Totp.decrypt_encrypt k iv secret

/-- The rows after an enrolment: the operator's has the new secret, the others have theirs. -/
theorem mem_enroll {b : PlatformAdmin} (hb : b ∈ (enroll k desk payload admin iv).2.admins.rows) :
    ∃ a ∈ desk.admins.rows, b.pk = a.pk ∧
      ((b.totpSecret = a.totpSecret ∧ b.totpConfirmedAt = a.totpConfirmedAt) ∨
        ∃ secret, enrolledSecret k admin payload = some secret ∧ b.pk = admin.pk ∧
          b.storedSecret k = some secret) := by
  cases henrolled : enrolledSecret k admin payload with
  | none =>
    simp only [enroll, henrolled] at hb
    exact ⟨b, hb, rfl, .inl ⟨rfl, rfl⟩⟩
  | some secret =>
    obtain ⟨copy, hstored, hsave⟩ := admins_enroll henrolled
    rw [hsave] at hb
    obtain ⟨a, ha, rfl⟩ := List.mem_map.1 hb
    refine ⟨a, ha, ?_⟩
    by_cases hpk : a.pk = admin.pk
    · rw [if_pos hpk]
      exact ⟨rfl, .inr ⟨secret, rfl, hpk, hstored⟩⟩
    · rw [if_neg hpk]
      exact ⟨rfl, .inl ⟨rfl, rfl⟩⟩

theorem admins_signedIn (k : Crypto) (desk : Desk) (ticket : String) (payload : Ticket)
    (admin : PlatformAdmin) (ip : Option String) (iv : String) :
    ∃ copy, (signedIn k desk ticket payload admin ip iv).2.admins =
      (enroll k desk payload admin iv).2.admins.save (enroll k desk payload admin iv).1.pk
        copy.saveLogin (keepsIdentity_saveLogin copy) :=
  ⟨_, rfl⟩

/-- Signing in leaves the authenticators of the other operators.  Its own is the one enrolled, if
any. -/
theorem mem_signedIn {b : PlatformAdmin}
    (hb : b ∈ (signedIn k desk ticket payload admin ip iv).2.admins.rows) :
    ∃ a ∈ desk.admins.rows, b.pk = a.pk ∧
      ((b.totpSecret = a.totpSecret ∧ b.totpConfirmedAt = a.totpConfirmedAt) ∨
        ∃ secret, enrolledSecret k admin payload = some secret ∧ b.pk = admin.pk ∧
          b.storedSecret k = some secret) := by
  obtain ⟨copy, hsave⟩ := admins_signedIn k desk ticket payload admin ip iv
  rw [hsave] at hb
  obtain ⟨b₁, hb₁, hpk₁, hsecret₁, hconfirmed₁⟩ := sameTotp_saveLogin _ _ copy b hb
  obtain ⟨a, ha, hpk, hcase⟩ := mem_enroll hb₁
  refine ⟨a, ha, hpk₁.trans hpk, ?_⟩
  rw [hpk₁, hsecret₁, hconfirmed₁, PlatformAdmin.storedSecret, hsecret₁]
  exact hcase

/-- An enrolment reaches the operator's row. -/
theorem exists_enrolled (desk : Desk) (ticket iv : String) (ip : Option String) {secret : String}
    (henrolled : enrolledSecret k admin payload = some secret) (hadmin : admin ∈ desk.admins.rows) :
    ∃ b ∈ (signedIn k desk ticket payload admin ip iv).2.admins.rows,
      b.pk = admin.pk ∧ b.storedSecret k = some secret := by
  have henroll : ∃ b ∈ (enroll k desk payload admin iv).2.admins.rows,
      b.pk = admin.pk ∧ b.storedSecret k = some secret := by
    obtain ⟨copy, hstored, hsave⟩ := admins_enroll henrolled
    rw [hsave]
    refine ⟨_, List.mem_map.2 ⟨admin, hadmin, rfl⟩, ?_⟩
    rw [if_pos rfl]
    exact ⟨rfl, hstored⟩
  obtain ⟨b, hb, hpk, hstored⟩ := henroll
  obtain ⟨copy, hsave⟩ := admins_signedIn k desk ticket payload admin ip iv
  rw [hsave]
  refine ⟨_, List.mem_map.2 ⟨b, hb, rfl⟩, ?_⟩
  split_ifs
  · exact ⟨hpk, hstored⟩
  · exact ⟨hpk, hstored⟩

end SignedIn

/-- A request keeps a confirmed authenticator exactly when it does not present an enrolling ticket
with a code of the ticket's own secret. -/
theorem keepsAuthenticator_iff {request : SignInRequest} :
    KeepsAuthenticator k desk (serveSignIn k c desk request) request ↔
      NotReplacing k desk request := by
  cases request with
  | verify ticket code ip iv =>
    rw [serveSignIn]
    constructor
    · intro hkeeps payload admin hadmin secret hload hpk hactive hlocked hconfirmed henrolling
        hsecret hverify
      have hchecked : checkedSecret k admin payload = some secret := by
        rw [checkedSecret, if_pos henrolling, hsecret]
      have henrolled : enrolledSecret k admin payload = some secret := by
        rw [enrolledSecret, if_neg (by simp [hconfirmed.2.2, henrolling]), hchecked]
      have haccepted := (secondFactor_of_confirmed hconfirmed).2 ⟨secret, hchecked, hverify⟩
      have hrow : desk.admins.activeByPk payload.adminId = some admin :=
        hpk ▸ OperatorTable.activeByPk_of_mem hadmin hactive
      -- the row after the request holds the ticket's secret
      obtain ⟨b, hb, hbpk, hstored⟩ := exists_enrolled { desk with
        usedCodes := (secondFactor k admin desk.usedCodes desk.now payload (strip code)).2 }
        (strip ticket) iv ip henrolled hadmin
      rw [← (hkeeps payload admin hadmin hload hpk hconfirmed).2 b ?_ hbpk, hstored]
      rw [loginVerifyPost_of_accepted hload hrow hlocked haccepted]
      exact hb
    · intro hnot payload admin hadmin hload hpk hconfirmed
      rcases loginVerifyPost_cases k desk ticket code ip iv with ⟨hsessions, -, hsame, -⟩ |
        ⟨payload', admin', hload', hrow, hlocked, haccepted⟩
      · -- refused: the row keeps its authenticator
        refine ⟨fun hne => absurd hsessions hne, fun b hb hbpk => ?_⟩
        obtain ⟨a, ha, hpk', htotp, -⟩ := hsame b hb
        rw [PlatformAdmin.storedSecret, htotp,
          desk.admins.eq_of_pk ha hadmin (hpk'.symm.trans hbpk)]
        rfl
      · -- accepted: the code was of the secret checked, which is the row's own
        obtain rfl := Option.some.inj (hload.symm.trans hload')
        obtain ⟨hadmin', hpk', hactive⟩ := OperatorTable.activeByPk_eq_some hrow
        obtain rfl := desk.admins.eq_of_pk hadmin hadmin' (hpk.trans hpk'.symm)
        obtain ⟨secret, hchecked, hverify⟩ := (secondFactor_of_confirmed hconfirmed).1 haccepted
        have hstored : admin.storedSecret k = some secret := by
          rw [checkedSecret] at hchecked
          split_ifs at hchecked with henrolling
          · exact hnot payload admin hadmin secret hload hpk hactive hlocked hconfirmed henrolling
              hchecked hverify
          · exact hchecked
        refine ⟨fun _ => ⟨secret, hstored, hverify⟩, fun b hb hbpk => ?_⟩
        rw [loginVerifyPost_of_accepted hload hrow hlocked haccepted] at hb
        obtain ⟨a, ha, hba, ⟨htotp, -⟩ | ⟨secret', henrolled, -, hstored'⟩⟩ := mem_signedIn hb
        · rw [PlatformAdmin.storedSecret, htotp,
            desk.admins.eq_of_pk ha hadmin (hba.symm.trans hbpk)]
          rfl
        · rw [enrolledSecret] at henrolled
          split_ifs at henrolled
          rw [hstored', hstored, ← hchecked, ← henrolled]
  | _ => exact Iff.rfl

/-- A run keeps the confirmed authenticators at every request exactly when no request presents an
enrolling ticket, with a code of its own secret, for an operator on another authenticator. -/
theorem keepsAuthenticator_of_run (k : Crypto) (c : Casing) (desk₀ desk : Desk)
    (requests : List SignInRequest) :
    (signIn k c).Run (fun _ desk request =>
      KeepsAuthenticator k desk (serveSignIn k c desk request) request)
        desk₀ requests desk ↔
      (signIn k c).Run (fun _ desk request => NotReplacing k desk request) desk₀ requests desk :=
  ⟨fun h => h.mono fun _ _ _ => keepsAuthenticator_iff.1,
    fun h => h.mono fun _ _ _ => keepsAuthenticator_iff.2⟩

/-! ### The enrolment that comes too late -/

/-- The operator after signing in with the secret. -/
def enrolledOperator (stored : String) : PlatformAdmin :=
  { freshOperator with totpSecret := stored, totpConfirmedAt := some 0, lastLoginAt := some 0 }

/-- The desk with the operator who has not enrolled. -/
def freshDesk : Desk := ⟨⟨[freshOperator], List.pairwise_singleton _ _⟩, [], [], [], [], 0⟩

/-- Two sign-ins begin, and each holds a secret; the first one confirms its own. -/
def twoEnrolments : List SignInRequest :=
  [.login "owner@opencloud.uz" "pw" "t1" "S1" "", .login "owner@opencloud.uz" "pw" "t2" "S2" "",
    .verify "t1" "111111" none ""]

/-- The second one then replaces it: a session starts with a code of the ticket's secret, which the
confirmed authenticator does not accept, and the secret on the row is the ticket's. -/
theorem enrolled_twice :
    let desk := twoEnrolments.foldl (serveSignIn sampleCrypto .ascii) freshDesk
    let request : SignInRequest := .verify "t2" "222222" none ""
    let desk' := serveSignIn sampleCrypto .ascii desk request
    desk.admins.rows.map (PlatformAdmin.storedSecret sampleCrypto) = [some "S1"] ∧
      desk'.admins.rows.map (PlatformAdmin.storedSecret sampleCrypto) = [some "S2"] ∧
      desk'.sessions.length = desk.sessions.length + 1 ∧
      (Totp.verify sampleCrypto desk.usedCodes desk.now "S1" "222222" 1).1 = false ∧
      ¬ KeepsAuthenticator sampleCrypto desk desk' request := by
  intro desk request desk'
  have hbefore : desk.admins.rows.map (PlatformAdmin.storedSecret sampleCrypto) = [some "S1"] := by
    decide +kernel
  have hafter : desk'.admins.rows.map (PlatformAdmin.storedSecret sampleCrypto) = [some "S2"] := by
    decide +kernel
  refine ⟨hbefore, hafter, by decide +kernel, by decide +kernel, fun hkeeps => ?_⟩
  have hload : Ticket.load desk.tickets desk.now (strip "t2") = some ⟨1, true, some "#S2"⟩ := by
    decide +kernel
  have hrow : enrolledOperator "#S1" ∈ desk.admins.rows := by
    rw [show desk.admins.rows = [enrolledOperator "#S1"] by decide +kernel]
    exact List.mem_singleton_self _
  have hrow' : enrolledOperator "#S2" ∈ desk'.admins.rows := by
    rw [show desk'.admins.rows = [enrolledOperator "#S2"] by decide +kernel]
    exact List.mem_singleton_self _
  have hkept := (hkeeps _ _ hrow hload rfl ⟨by decide, by decide, by decide⟩).2 _ hrow' rfl
  exact absurd hkept (by decide +kernel)

/-! ### Enrolling tickets that are alone -/

/-- No enrolling ticket is alive for an operator with a confirmed authenticator. -/
def Settled (desk : Desk) : Prop :=
  ∀ e ∈ desk.tickets, desk.now < e.expires → e.value.enrolling = true →
    ∀ admin ∈ desk.admins.rows, admin.pk = e.value.adminId →
      admin.totpSecret = "" ∨ admin.totpConfirmedAt = none

/-- An enrolling ticket is presented while the operator has no other one. -/
def SoleTicket (desk : Desk) : SignInRequest → Prop
  | .verify ticket _ _ _ =>
    ∀ payload, Ticket.load desk.tickets desk.now (strip ticket) = some payload →
      payload.enrolling = true → ∀ e ∈ desk.tickets, desk.now < e.expires →
        e.value.enrolling = true → e.value.adminId = payload.adminId → e.key = strip ticket
  | _ => True

theorem exists_of_load {cache : Cache String Ticket} {now : Instant} {ticket : String}
    (h : Ticket.load cache now ticket = some payload) :
    ∃ e ∈ cache, e.key = ticket ∧ e.value = payload ∧ now < e.expires := by
  rw [Ticket.load] at h
  split_ifs at h
  exact Cache.exists_of_get h

theorem notReplacing_of_settled (h : Settled desk) (request : SignInRequest) :
    NotReplacing k desk request := by
  cases request with
  | verify ticket code ip iv =>
    intro payload admin hadmin secret hload hpk _ _ hconfirmed henrolling _ _
    obtain ⟨e, he, -, rfl, halive⟩ := exists_of_load hload
    rcases h e he halive henrolling admin hadmin hpk with hempty | hnone
    · exact absurd hempty hconfirmed.1
    · exact absurd hnone hconfirmed.2.1
  | _ => trivial

theorem Settled.of_same (h : Settled desk) (hadmins : SameTotp desk.admins desk'.admins)
    (htickets : ∀ e ∈ desk'.tickets, e ∈ desk.tickets) (hnow : desk.now ≤ desk'.now) :
    Settled desk' := by
  intro e he halive henrolling admin' hadmin' hpk
  obtain ⟨admin, hadmin, hpk', hsecret, hconfirmed⟩ := hadmins admin' hadmin'
  rw [hsecret, hconfirmed]
  exact h e (htickets e he) (lt_of_le_of_lt hnow halive) henrolling admin hadmin
    (hpk'.symm.trans hpk)

theorem Settled.issue (h : Settled desk) {ticket : String}
    (hpayload : payload.enrolling = true → ∀ admin ∈ desk.admins.rows, admin.pk = payload.adminId →
      admin.totpSecret = "" ∨ admin.totpConfirmedAt = none) :
    Settled { desk with tickets := Ticket.issue desk.tickets desk.now ticket payload } := by
  intro e he halive henrolling admin hadmin hpk
  rcases Cache.mem_set he with rfl | ⟨he, -⟩
  · exact hpayload henrolling admin hadmin hpk
  · exact h e he halive henrolling admin hadmin hpk

/-- Step 1 gives an enrolling ticket to an operator without a confirmed authenticator only. -/
theorem settled_loginPost {email password ticket secret iv : String} (h : Settled desk) :
    Settled (loginPost k c desk email password ticket secret iv).2 := by
  have hsame : ∀ {desk' : Desk}, desk'.admins = desk.admins → desk'.tickets = desk.tickets →
      desk'.now = desk.now → Settled desk' := by
    intro desk' hadmins htickets hnow
    exact h.of_same (hadmins ▸ SameTotp.refl _) (htickets ▸ fun e he => he) hnow.ge
  unfold loginPost
  dsimp only
  cases hadmin : desk.admins.byEmail (c.lower (strip email)) with
  | none => exact hsame rfl rfl rfl
  | some admin =>
    have hmem := OperatorTable.byEmail_eq_some hadmin
    dsimp only
    split_ifs with hactive hlocked hpassword hcode hconfirmed
    · exact hsame rfl rfl rfl
    · exact hsame rfl rfl rfl
    · exact h.of_same (sameTotp_saveLockout _ _ _) (fun e he => he) le_rfl
    · exact h.issue (by simp)
    · exact h.issue (by simp)
    · refine h.issue fun _ other hother hpk => ?_
      obtain rfl := desk.admins.eq_of_pk hother hmem hpk
      rw [not_and_or, not_not, not_not] at hconfirmed
      exact hconfirmed.symm

/-- A redeemed ticket was the last enrolling one of its operator, and is revoked. -/
theorem settled_signedIn {ticket iv : String} {ip : Option String} (h : Settled desk)
    (hpk : admin.pk = payload.adminId)
    (hsole : payload.enrolling = true → ∀ e ∈ desk.tickets, desk.now < e.expires →
      e.value.enrolling = true → e.value.adminId = payload.adminId → e.key = ticket) :
    Settled (signedIn k desk ticket payload admin ip iv).2 := by
  obtain ⟨-, htickets, hnow⟩ := signedIn_frame k desk ticket payload admin ip iv
  intro e he halive henrolling b hb hbpk
  rw [htickets] at he
  rw [hnow] at halive
  obtain ⟨he, hkey⟩ := Cache.mem_delete.1 he
  obtain ⟨a, ha, hba, ⟨hsecret, hconfirmed⟩ | ⟨secret, henrolled, hbadmin, -⟩⟩ := mem_signedIn hb
  · rw [hsecret, hconfirmed]
    exact h e he halive henrolling a ha (hba.symm.trans hbpk)
  · refine absurd (hsole ?_ e he halive henrolling ?_) hkey
    · rw [enrolledSecret] at henrolled
      split_ifs at henrolled with hnone
      simpa using fun hfalse => hnone (.inr hfalse)
    · rw [← hbpk, hbadmin, hpk]

theorem setPlatformAdminCode_eq_ok {email salt : String} {code : Option String}
    (h : setPlatformAdminCode k c desk email code salt = .ok desk') :
    ∃ pk copy, desk' = desk.save pk (PlatformAdmin.saveAccessCode copy)
      (keepsIdentity_saveAccessCode copy) := by
  unfold setPlatformAdminCode at h
  dsimp only at h
  split at h
  · cases h
  · split at h
    · exact ⟨_, _, (Except.ok.inj h).symm⟩
    · split at h
      · cases h
      · exact ⟨_, _, (Except.ok.inj h).symm⟩

theorem settled_step {request : SignInRequest} (h : Settled desk)
    (hsole : SoleTicket desk request) :
    Settled (serveSignIn k c desk request) := by
  cases request with
  | login email password ticket secret iv => exact settled_loginPost h
  | verify ticket code ip iv =>
    rw [serveSignIn]
    rcases loginVerifyPost_cases k desk ticket code ip iv with ⟨-, hnow, hsame, htickets⟩ |
      ⟨payload, admin, hload, hrow, hlocked, haccepted⟩
    · exact h.of_same hsame htickets hnow.ge
    · rw [loginVerifyPost_of_accepted hload hrow hlocked haccepted]
      exact settled_signedIn h (OperatorTable.activeByPk_eq_some hrow).2.1 (hsole payload hload)
  | setCode email code salt =>
    rw [serveSignIn]
    cases hset : setPlatformAdminCode k c desk email code salt with
    | error _ => exact h
    | ok desk' =>
      obtain ⟨pk, copy, rfl⟩ := setPlatformAdminCode_eq_ok hset
      exact h.of_same (sameTotp_saveAccessCode _ _ _) (fun e he => he) le_rfl
  | pass duration =>
    exact h.of_same (SameTotp.refl _) (fun e he => he) (Nat.le_add_right _ _)

/-- From a settled desk, a run in which enrolling tickets are redeemed only while they are alone
keeps the confirmed authenticators at every request. -/
theorem keepsAuthenticator_of_sole {desk₀ : Desk} {requests : List SignInRequest}
    (h₀ : Settled desk₀)
    (h : (signIn k c).Run (fun _ desk request => SoleTicket desk request) desk₀ requests desk) :
    (signIn k c).Run (fun _ desk request =>
      KeepsAuthenticator k desk (serveSignIn k c desk request) request)
      desk₀ requests desk ∧ Settled desk := by
  induction h with
  | nil => exact ⟨.nil, h₀⟩
  | snoc _ hsole hstep ih =>
    obtain rfl := Option.some.inj hstep
    refine ⟨ih.1.snoc ?_ hstep, settled_step ih.2 hsole⟩
    exact keepsAuthenticator_iff.2 (notReplacing_of_settled ih.2 _)

end OpenCloud
