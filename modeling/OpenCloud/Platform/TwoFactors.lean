import OpenCloud.Platform.Passwords

/-!
# Two factors

An access code stands in for the authenticator, and must not be the password: two factors that are
the same string are one factor.  The commands that set a code check it against the password.  A
password change does not check the new password against the code, so the two may meet there.

The table holds hashes.  `ExactHashes` says that a hash accepts the string it was made from and no
other one.

## Main results

* `twoFactors_serve_iff` : one request keeps the factors apart exactly when it does not set the
  access code as the password.
* `twoFactors_of_run` : so does a run.
-/

namespace OpenCloud

/-- `check_password` accepts exactly the string that `make_password` hashed, and its hashes are
usable. -/
structure ExactHashes (k : Crypto) : Prop where
  checkHash_iff : ∀ salt raw given, k.checkHash given (k.makeHash salt raw) = true ↔ given = raw
  usable : ∀ salt raw, k.usable (k.makeHash salt raw) = true

/-- No string is both the access code and the password. -/
def PlatformAdmin.TwoFactors (k : Crypto) (admin : PlatformAdmin) : Prop :=
  ∀ raw, ¬ (admin.checkAccessCode k raw = true ∧ admin.checkPassword k raw = true)

/-- The factors of every operator are two. -/
def OperatorTable.TwoFactors (k : Crypto) (table : OperatorTable) : Prop :=
  ∀ admin ∈ table.rows, admin.TwoFactors k

/-- The request does not set the access code of the operator as the password. -/
def KeepsApart (k : Crypto) (isAlpha : Char → Bool) (desk : Desk) : OperatorRequest → Prop
  | .changePassword session current new _ => ∀ admin, desk.operatorOf session = some admin →
    admin.checkPassword k current = true → passwordProblem k isAlpha new = none →
      admin.checkAccessCode k new = false
  | _ => True

instance (k : Crypto) (isAlpha : Char → Bool) (desk : Desk) :
    ∀ request, Decidable (KeepsApart k isAlpha desk request)
  | .changePassword session current new _ =>
    inferInstanceAs (Decidable (∀ admin ∈ desk.operatorOf session,
      admin.checkPassword k current = true → passwordProblem k isAlpha new = none →
        admin.checkAccessCode k new = false))
  | .signIn _ | .create .. | .setActive .. | .evict _ => inferInstanceAs (Decidable True)

section

variable {k : Crypto} {c : Casing} {isAlpha : Char → Bool} {desk : Desk} {table : OperatorTable}
  {admin : PlatformAdmin} {pk : ℕ} {change : PlatformAdmin → PlatformAdmin}

/-! ### One operator -/

namespace PlatformAdmin

theorem TwoFactors.congr {admin' : PlatformAdmin} (h : admin.TwoFactors k)
    (hpassword : admin'.passwordHash = admin.passwordHash)
    (hcode : admin'.accessCodeHash = admin.accessCodeHash) : admin'.TwoFactors k := by
  intro raw
  simpa only [checkAccessCode, usesAccessCode, checkPassword, hpassword, hcode] using h raw

theorem twoFactors_of_noCode (h : admin.accessCodeHash = "") : admin.TwoFactors k := by
  rintro raw ⟨hcode, -⟩
  simp [checkAccessCode, usesAccessCode, h] at hcode

theorem twoFactors_setAccessCode (hk : ExactHashes k) {salt code : String}
    (h : admin.checkPassword k code = false) : (admin.setAccessCode k salt code).TwoFactors k := by
  by_cases hempty : code = ""
  · exact twoFactors_of_noCode (by rw [setAccessCode, if_pos hempty])
  · rintro raw ⟨hcode, hpassword⟩
    have hraw : raw = code := by
      rw [checkAccessCode, setAccessCode, if_neg hempty, Bool.and_eq_true] at hcode
      exact (hk.checkHash_iff salt code raw).1 hcode.2
    subst hraw
    have hboth : admin.checkPassword k raw = true := hpassword
    rw [h] at hboth
    cases hboth

theorem twoFactors_setPassword (hk : ExactHashes k) {salt new : String} :
    (admin.setPassword k salt new).TwoFactors k ↔ admin.checkAccessCode k new = false := by
  have hpassword : ∀ raw, (admin.setPassword k salt new).checkPassword k raw = true ↔
    raw = new := by
    intro raw
    rw [checkPassword, setPassword, Bool.and_eq_true, hk.checkHash_iff]
    exact and_iff_right (hk.usable salt new)
  constructor
  · intro h
    rw [← Bool.not_eq_true]
    exact fun hcode => h new ⟨hcode, (hpassword new).2 rfl⟩
  · rintro h raw ⟨hcode, hraw⟩
    obtain rfl := (hpassword raw).1 hraw
    have hcode' : admin.checkAccessCode k raw = true := hcode
    rw [h] at hcode'
    cases hcode'

end PlatformAdmin

/-! ### The table -/

namespace OperatorTable

theorem TwoFactors.save (h : table.TwoFactors k) (hkeeps : KeepsIdentity change)
    (hchange : ∀ a ∈ table.rows, a.pk = pk → (change a).TwoFactors k) :
    (table.save pk change hkeeps).TwoFactors k := by
  intro b hb
  obtain ⟨a, ha, rfl⟩ := List.mem_map.1 hb
  split_ifs with hpk
  · exact hchange a ha hpk
  · exact h a ha

theorem TwoFactors.save_of_hashes (h : table.TwoFactors k) (hkeeps : KeepsIdentity change)
    (hhashes : ∀ a, (change a).passwordHash = a.passwordHash ∧
      (change a).accessCodeHash = a.accessCodeHash) :
    (table.save pk change hkeeps).TwoFactors k :=
  h.save hkeeps fun a ha _ => (h a ha).congr (hhashes a).1 (hhashes a).2

theorem TwoFactors.create (h : table.TwoFactors k) (hfree : table.byEmail admin.email = none)
    (hadmin : admin.TwoFactors k) : (table.create admin hfree).TwoFactors k := by
  intro b hb
  rcases List.mem_append.1 hb with hb | hb
  · exact h b hb
  · rw [List.mem_singleton.1 hb]
    exact hadmin.congr rfl rfl

theorem twoFactors_of_save (hkeeps : KeepsIdentity change)
    (h : (table.save admin.pk change hkeeps).TwoFactors k) (hadmin : admin ∈ table.rows) :
    (change admin).TwoFactors k := by
  refine h (change admin) (List.mem_map.2 ⟨admin, hadmin, ?_⟩)
  rw [if_pos rfl]

end OperatorTable

/-! ### One request -/

theorem twoFactors_loginPost (h : desk.admins.TwoFactors k)
    (email password ticket secret iv : String) :
    (loginPost k c desk email password ticket secret iv).2.admins.TwoFactors k := by
  unfold loginPost
  dsimp only
  cases desk.admins.byEmail (c.lower (strip email)) with
  | none => exact h
  | some admin =>
    dsimp only
    split_ifs
    · exact h
    · exact h
    · exact h.save_of_hashes (keepsIdentity_saveLockout _) fun _ => ⟨rfl, rfl⟩
    · exact h
    · exact h
    · exact h

theorem twoFactors_signedIn (h : desk.admins.TwoFactors k) (ticket : String) (payload : Ticket)
    (admin : PlatformAdmin) (ip : Option String) (iv : String) :
    (signedIn k desk ticket payload admin ip iv).2.admins.TwoFactors k := by
  have henroll : (enroll k desk payload admin iv).2.admins.TwoFactors k := by
    unfold enroll
    cases enrolledSecret k admin payload with
    | none => exact h
    | some secret => exact h.save_of_hashes (keepsIdentity_saveTotp _) fun _ => ⟨rfl, rfl⟩
  obtain ⟨copy, hsave⟩ := admins_signedIn k desk ticket payload admin ip iv
  rw [hsave]
  exact henroll.save_of_hashes (keepsIdentity_saveLogin copy) fun _ => ⟨rfl, rfl⟩

/-- So does step 2, which otherwise writes the lockout. -/
theorem twoFactors_loginVerifyPost (h : desk.admins.TwoFactors k) (ticket code : String)
    (ip : Option String) (iv : String) :
    (loginVerifyPost k desk ticket code ip iv).2.admins.TwoFactors k := by
  unfold loginVerifyPost
  dsimp only
  split
  · exact h
  · split
    · exact h
    · rename_i payload _ _ admin _
      by_cases hlocked : admin.isLocked desk.now = true
      · rw [if_pos hlocked]
        exact h
      · rw [if_neg hlocked]
        by_cases haccepted : (secondFactor k admin desk.usedCodes desk.now payload (strip code)).1 =
          true
        · rw [if_pos haccepted]
          let used := (secondFactor k admin desk.usedCodes desk.now payload (strip code)).2
          have hused : { desk with usedCodes := used }.admins.TwoFactors k := h
          exact twoFactors_signedIn hused _ _ _ _ _
        · rw [if_neg haccepted]
          exact h.save_of_hashes (keepsIdentity_saveLockout _) fun _ => ⟨rfl, rfl⟩

theorem checkPassword_of_noProblem {code : String} (h : accessCodeProblem k admin code = none) :
    admin.checkPassword k code = false := by
  unfold accessCodeProblem at h
  split_ifs at h with _ hpassword
  simpa using hpassword

/-- The command sets a code that is not the password, or clears it. -/
theorem twoFactors_setPlatformAdminCode (hk : ExactHashes k) {desk' : Desk} {email salt : String}
    {code : Option String} (h : desk.admins.TwoFactors k)
    (hset : setPlatformAdminCode k c desk email code salt = .ok desk') :
    desk'.admins.TwoFactors k := by
  unfold setPlatformAdminCode at hset
  dsimp only at hset
  cases hadmin : desk.admins.byEmail (c.lower (strip email)) with
  | none => simp [hadmin] at hset
  | some admin =>
    have hmem := OperatorTable.byEmail_eq_some hadmin
    rw [hadmin] at hset
    cases code with
    | none =>
      obtain rfl := Except.ok.inj hset
      exact h.save (keepsIdentity_saveAccessCode _) fun a _ _ =>
        PlatformAdmin.twoFactors_of_noCode rfl
    | some code =>
      dsimp only at hset
      cases hproblem : accessCodeProblem k admin code with
      | some problem => simp [hproblem] at hset
      | none =>
        rw [hproblem] at hset
        obtain rfl := Except.ok.inj hset
        refine h.save (keepsIdentity_saveAccessCode _) fun a ha hpk => ?_
        obtain rfl := desk.admins.eq_of_pk ha hmem hpk
        exact (PlatformAdmin.twoFactors_setAccessCode hk
          (checkPassword_of_noProblem hproblem)).congr rfl rfl

/-- A new operator has no code, or one that is not the password. -/
theorem twoFactors_create (hk : ExactHashes k) {desk' : Desk}
    {email name password salt codeSalt : String}
    {role : Role} {code : Option String} (h : desk.admins.TwoFactors k)
    (hcreate : createPlatformAdmin k c isAlpha desk email name role password code salt codeSalt =
      .ok desk') :
    desk'.admins.TwoFactors k := by
  unfold createPlatformAdmin at hcreate
  dsimp only at hcreate
  split at hcreate
  · rename_i hfree
    split at hcreate
    · cases hcreate
    · split at hcreate
      · obtain rfl := Except.ok.inj hcreate
        exact h.create hfree (PlatformAdmin.twoFactors_of_noCode rfl)
      · split at hcreate
        · cases hcreate
        · rename_i hproblem
          obtain rfl := Except.ok.inj hcreate
          exact h.create hfree
            (PlatformAdmin.twoFactors_setAccessCode hk (checkPassword_of_noProblem hproblem))
  · cases hcreate

/-- A password change keeps the factors apart exactly when the new password is not the access
code. -/
theorem twoFactors_passwordChangePost_iff (hk : ExactHashes k) {session : Session}
    {current new salt : String} (h : desk.admins.TwoFactors k) :
    (passwordChangePost k isAlpha desk session current new salt).2.admins.TwoFactors k ↔
      ∀ admin, desk.operatorOf session = some admin → admin.checkPassword k current = true →
        passwordProblem k isAlpha new = none → admin.checkAccessCode k new = false := by
  unfold passwordChangePost
  cases hadmin : desk.operatorOf session with
  | none => simpa using h
  | some admin =>
    dsimp only
    by_cases hcurrent : admin.checkPassword k current = true
    · cases hproblem : passwordProblem k isAlpha new with
      | some problem => simpa [hcurrent] using h
      | none =>
        simp only [hcurrent, Bool.not_true, Bool.false_eq_true, ↓reduceIte, Option.some.injEq,
          forall_eq', forall_const]
        have hmem : admin ∈ desk.admins.rows := by
          unfold Desk.operatorOf at hadmin
          split_ifs at hadmin
          exact (OperatorTable.activeByPk_eq_some hadmin).1
        have hset : (admin.setPassword k salt new).TwoFactors k ↔ _ :=
          PlatformAdmin.twoFactors_setPassword hk
        rw [← hset]
        constructor
        · intro hsave
          exact (OperatorTable.twoFactors_of_save (keepsIdentity_savePassword _) hsave hmem).congr
            rfl rfl
        · refine fun hnew => h.save (keepsIdentity_savePassword _) fun a ha hpk => ?_
          obtain rfl := desk.admins.eq_of_pk ha hmem hpk
          exact hnew.congr rfl rfl
    · refine iff_of_true ?_ ?_
      · rw [if_pos (by simpa using hcurrent)]
        exact h
      · rintro _ hsome hpassword
        obtain rfl := Option.some.inj hsome
        exact absurd hpassword hcurrent

/-- One request keeps the factors apart exactly when it does not set the access code as the
password. -/
theorem twoFactors_serve_iff (hk : ExactHashes k) {request : OperatorRequest}
    (h : desk.admins.TwoFactors k) :
    (serveOperators k c isAlpha desk request).admins.TwoFactors k ↔
      KeepsApart k isAlpha desk request := by
  cases request with
  | changePassword session current new salt => exact twoFactors_passwordChangePost_iff hk h
  | signIn request =>
    refine iff_of_true ?_ trivial
    cases request with
    | login email password ticket secret iv =>
      exact twoFactors_loginPost h email password ticket secret iv
    | verify ticket code ip iv =>
      rw [serveOperators, serveSignIn]
      exact twoFactors_loginVerifyPost h ticket code ip iv
    | setCode email code salt =>
      rw [serveOperators, serveSignIn]
      cases hset : setPlatformAdminCode k c desk email code salt with
      | error _ => exact h
      | ok desk' => exact twoFactors_setPlatformAdminCode hk h hset
    | pass duration => exact h
  | create email name role password code salt codeSalt =>
    refine iff_of_true ?_ trivial
    rw [serveOperators]
    cases hcreate :
      createPlatformAdmin k c isAlpha desk email name role password code salt codeSalt with
    | error _ => exact h
    | ok desk' => exact twoFactors_create hk h hcreate
  | setActive pk active =>
    exact iff_of_true (h.save_of_hashes (keepsIdentity_saveActive _) fun _ => ⟨rfl, rfl⟩) trivial
  | evict ticket => exact iff_of_true h trivial

end

/-! ### Runs -/

/-- **Two factors are never one**: from operators with two factors each, a run keeps every
operator's factors apart at every request exactly when no request sets the access code of the
operator as the password. -/
theorem twoFactors_of_run {k : Crypto} {c : Casing} {isAlpha : Char → Bool} {desk₀ desk : Desk}
    {requests : List OperatorRequest} (hk : ExactHashes k) (h₀ : desk₀.admins.TwoFactors k) :
    (operators k c isAlpha).Run (fun _ desk request =>
        (serveOperators k c isAlpha desk request).admins.TwoFactors k) desk₀ requests desk ↔
      (operators k c isAlpha).Run (fun _ desk request => KeepsApart k isAlpha desk request)
        desk₀ requests desk :=
  @System.Run.keeps_iff _ _ _ _ _ _ (serveOperators k c isAlpha)
    (fun desk => desk.admins.TwoFactors k) h₀
    fun _ _ _ hdesk => twoFactors_serve_iff hk hdesk

/-! ### A password change to the access code -/

/-- Hashes that are the text after a mark. -/
def hashCrypto : Crypto :=
  { sampleCrypto with
    makeHash := fun _ raw => String.ofList ('$' :: raw.toList)
    checkHash := fun raw encoded => encoded = String.ofList ('$' :: raw.toList)
    usable := fun encoded => encoded.toList.head? ≠ some '!' }

theorem exactHashes_hashCrypto : ExactHashes hashCrypto where
  checkHash_iff salt raw given := by
    simp only [hashCrypto, decide_eq_true_eq, String.ofList_inj, List.cons.injEq, true_and]
    exact ⟨fun h => (String.toList_inj.1 h).symm, fun h => h ▸ rfl⟩
  usable salt raw := by simp [hashCrypto]

/-- The desk before the first operator. -/
def emptyDesk : Desk := ⟨⟨[], .nil⟩, [], [], [], [], 0⟩

/-- The session of the first operator. -/
def ownerSession : Session := ⟨1, seconds sessionSeconds⟩

/-- An operator is created with both factors, signs in and changes the password. -/
def ownerChanges (new : String) : List OperatorRequest :=
  [.create "owner@opencloud.uz" "Owner" .owner "first-password-1" (some "static-code-22") "" "",
    .signIn (.login "owner@opencloud.uz" "first-password-1" "t1" "S1" ""),
    .signIn (.verify "t1" "static-code-22" none ""),
    .changePassword ownerSession "first-password-1" new ""]

/-- To a password of its own. -/
theorem twoFactors_of_run_owner :
    ∃ desk : Desk, desk.admins.rows.map
      (fun admin => admin.checkPassword hashCrypto "second-password-2") =
        [true] ∧
      (operators hashCrypto .ascii Char.isAlpha).Run (fun _ desk request =>
        (serveOperators hashCrypto .ascii Char.isAlpha desk request).admins.TwoFactors hashCrypto)
        emptyDesk (ownerChanges "second-password-2") desk := by
  have hchanged : (System.execAll (fun desk request =>
      some (serveOperators hashCrypto .ascii Char.isAlpha desk request))
      (fun _ desk request => KeepsApart hashCrypto Char.isAlpha desk request) [] emptyDesk
      (ownerChanges "second-password-2")).map (fun desk =>
        desk.admins.rows.map fun admin => admin.checkPassword hashCrypto "second-password-2") =
      some [true] := by decide +kernel
  obtain ⟨desk, hexec, hpassword⟩ := Option.map_eq_some_iff.1 hchanged
  have hnone : emptyDesk.admins.TwoFactors hashCrypto := by
    simp [emptyDesk, OperatorTable.TwoFactors]
  exact ⟨desk, hpassword, (twoFactors_of_run exactHashes_hashCrypto hnone).2
    (System.Run.of_exec hexec)⟩

/-- To the access code: the string passes both checks. -/
theorem one_factor :
    ExactHashes hashCrypto ∧
      ∃ desk, (operators hashCrypto .ascii Char.isAlpha).Run System.Free emptyDesk
        (ownerChanges "static-code-22") desk ∧
      ∃ admin ∈ desk.admins.rows, admin.checkAccessCode hashCrypto "static-code-22" = true ∧
        admin.checkPassword hashCrypto "static-code-22" = true := by
  have hchecks : (System.execAll (fun desk request =>
      some (serveOperators hashCrypto .ascii Char.isAlpha desk request)) System.Free [] emptyDesk
      (ownerChanges "static-code-22")).map (fun desk => desk.admins.rows.map fun admin =>
        (admin.checkAccessCode hashCrypto "static-code-22",
          admin.checkPassword hashCrypto "static-code-22")) = some [(true, true)] := by
    decide +kernel
  obtain ⟨desk, hexec, hboth⟩ := Option.map_eq_some_iff.1 hchecks
  obtain ⟨admin, hadmin, hpair⟩ : ∃ admin ∈ desk.admins.rows,
      (admin.checkAccessCode hashCrypto "static-code-22",
        admin.checkPassword hashCrypto "static-code-22") =
        (true, true) := List.mem_map.1 (hboth ▸ List.mem_singleton_self _)
  exact ⟨exactHashes_hashCrypto, desk, System.Run.of_exec hexec, admin, hadmin, Prod.mk.inj hpair⟩

end OpenCloud
