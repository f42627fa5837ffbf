import OpenCloud.System.Authority

/-!
# Project switches that overlap

A switch reads the vaulted token, exchanges it, stores the new token in the vault, puts the project
into its own copy of the session, and the copy is saved when the response is finished.  The vault
and the session table are written at different moments, and nothing orders two switches of one
browser session: the one that stores its token last need not be the one that saves last.

## Main results

* `serial_eq_switchPost` : the steps of one switch alone are `switchPost`.
* `agree_of_run` : with no switch in flight the session and the vaulted token name one project, if
  whoever saves last wants the project of the token stored last.
-/

namespace OpenCloud

/-! ### The vault -/

namespace Vault

/-- The vault holds the token under the key. -/
def Holds (k : Crypto) (cache : Cache String String) (now : Instant) (sessionKey token : String) :
    Prop :=
  ∃ e ∈ cache, e.key = sessionKey ∧ now < e.expires ∧ k.fernetDecrypt e.value = some token

variable {k : Crypto} {cache : Cache String String} {now now' : Instant}
  {sessionKey token token' iv : String}

theorem holds_of_get (h : get k cache now sessionKey = some token) :
    Holds k cache now sessionKey token := by
  unfold get at h
  split at h
  · cases h
  · rename_i encrypted hget
    obtain ⟨e, he, hkey, hvalue, halive⟩ := Cache.exists_of_get hget
    split_ifs at h
    exact ⟨e, he, hkey, halive, hvalue ▸ h⟩

theorem eq_of_holds_store
    (h : Holds k (store k cache now sessionKey iv token) now' sessionKey token') :
    token' = token := by
  obtain ⟨e, he, hkey, -, hdecrypt⟩ := h
  rcases Cache.mem_set he with rfl | ⟨-, hne⟩
  · rw [k.decrypt_encrypt] at hdecrypt
    exact (Option.some.inj hdecrypt).symm
  · exact absurd hkey hne

theorem Holds.of_le (h : Holds k cache now' sessionKey token) (hle : now ≤ now') :
    Holds k cache now sessionKey token := by
  obtain ⟨e, he, hkey, halive, hdecrypt⟩ := h
  exact ⟨e, he, hkey, hle.trans_lt halive, hdecrypt⟩

end Vault

/-! ### Switches in flight -/

/-- An answer of the cloud names the project that its token is scoped to. -/
abbrev ProjectAnswer (scopeOf : String → Option String) :=
  { result : ScopedResult // scopeOf result.token = result.projectId }

/-- How far a switch has come. -/
inductive SwitchPhase (scopeOf : String → Option String) where
  /-- It has read the session and the vaulted token. -/
  | asked (session : CabinetSession) (user : User) (token project : String)
  /-- The cloud has exchanged the token. -/
  | exchanged (session : CabinetSession) (user : User) (result : ProjectAnswer scopeOf)
  /-- The new token is in the vault. -/
  | stored (session : CabinetSession) (user : User) (result : ProjectAnswer scopeOf)
  /-- Its copy of the session has the new project. -/
  | rescoped (session : CabinetSession)

/-- The switch has stored its token and not saved the session. -/
def SwitchPhase.isStored {scopeOf : String → Option String} : SwitchPhase scopeOf → Bool
  | asked .. | exchanged .. => false
  | stored .. | rescoped .. => true

/-- The cabinet, the switches in flight, and the answer whose token was stored last. -/
structure SwitchDesk (scopeOf : String → Option String) where
  cab : Cabinet
  flight : ℕ → Option (SwitchPhase scopeOf)
  lastStored : Option (ProjectAnswer scopeOf)

/-- A step of the switch with the number; the cloud's answer is part of the step. -/
inductive SwitchStep (scopeOf : String → Option String) where
  | ask (id : ℕ) (project : String)
  | exchange (id : ℕ) (exchange : String → String → String →
    Except ZadaraError (ProjectAnswer scopeOf))
  | store (id : ℕ) (iv : String)
  | scope (id : ℕ)
  | save (id : ℕ)
  /-- Time passes. -/
  | pass (duration : ℕ)

/-- The switch that takes the step. -/
def SwitchStep.number {scopeOf : String → Option String} : SwitchStep scopeOf → Option ℕ
  | .ask id _ | .exchange id _ | .store id _ | .scope id | .save id => some id
  | .pass _ => none

namespace SwitchDesk

variable {scopeOf : String → Option String} (desk : SwitchDesk scopeOf)

/-- The switch is in this phase, or over. -/
def move (id : ℕ) (phase : Option (SwitchPhase scopeOf)) : SwitchDesk scopeOf :=
  { desk with flight := Function.update desk.flight id phase }

@[simp] theorem flight_move_self (id : ℕ) (phase : Option (SwitchPhase scopeOf)) :
    (desk.move id phase).flight id = phase := Function.update_self ..

@[simp] theorem flight_move_of_ne {id other : ℕ} (h : other ≠ id)
    (phase : Option (SwitchPhase scopeOf)) :
    (desk.move id phase).flight other = desk.flight other := Function.update_of_ne h ..

/-- The desk after a step of a switch of the session with the key. -/
def serve (k : Crypto) (c : Casing) (key : String) : SwitchStep scopeOf → SwitchDesk scopeOf
  | .ask id project =>
    match desk.flight id, switchAsk k desk.cab key project with
    | none, .ok (session, user, token) =>
      desk.move id (some (.asked session user token (strip project)))
    | _, _ => desk
  | .exchange id exchange =>
    match desk.flight id with
    | some (.asked session user token project) =>
      match exchange token project user.account with
      | .ok result => desk.move id (some (.exchanged session user result))
      | .error _ => desk.move id none
    | _ => desk
  | .store id iv =>
    match desk.flight id with
    | some (.exchanged session user result) =>
      let cab := { desk.cab with
        vault := Vault.store k desk.cab.vault desk.cab.now key iv result.1.token }
      { desk.move id (some (.stored session user result)) with
        cab := cab, lastStored := some result }
    | _ => desk
  | .scope id =>
    match desk.flight id with
    | some (.stored session user result) =>
      let cab := { desk.cab with users := syncRole c desk.cab.users user result.1 }
      { desk.move id (some (.rescoped (session.applyScope result.1))) with cab := cab }
    | _ => desk
  | .save id =>
    match desk.flight id with
    | some (.rescoped session) =>
      let cab := { desk.cab with sessions := Function.update desk.cab.sessions key (some session) }
      { desk.move id none with cab := cab }
    | _ => desk
  | .pass duration => { desk with cab := { desk.cab with now := desk.cab.now + duration } }

/-- No switch is between its store and its save. -/
def NoneStored : Prop := ∀ id phase, desk.flight id = some phase → phase.isStored = false

/-- The session names the project that a token vaulted for it is scoped to. -/
def Agree (k : Crypto) (key : String) : Prop :=
  ∀ session token, desk.cab.sessions key = some session →
    Vault.Holds k desk.cab.vault desk.cab.now key token → session.projectId = scopeOf token

end SwitchDesk

/-- The switches of the session with the key. -/
def switches {scopeOf : String → Option String} (k : Crypto) (c : Casing) (key : String) :
    System (SwitchDesk scopeOf) (SwitchStep scopeOf) :=
  System.ofExec fun desk step => some (desk.serve k c key step)

/-- A switch that saves while no other one is between its store and its save saves the project of
the token stored last. -/
def SavesLast {scopeOf : String → Option String} (desk : SwitchDesk scopeOf) :
    SwitchStep scopeOf → Prop
  | .save id => ∀ session, desk.flight id = some (.rescoped session) →
    (desk.move id none).NoneStored →
    ∀ result, desk.lastStored = some result → result.1.projectId = session.projectId
  | _ => True

section

variable {scopeOf : String → Option String} {k : Crypto} {c : Casing} {key : String}
  {desk desk' : SwitchDesk scopeOf} {id : ℕ} {phase : SwitchPhase scopeOf}

/-! ### One switch alone -/

/-- The steps of one switch alone are `ProjectSwitchView.post`. -/
theorem serial_eq_switchPost (project iv : String)
    (exchange : String → String → String → Except ZadaraError (ProjectAnswer scopeOf))
    (h : desk.flight id = none) :
    ([.ask id project, .exchange id exchange, .store id iv, .scope id, .save id].foldl
        (fun desk step => desk.serve k c key step) desk).cab =
      (switchPost k c desk.cab key project iv fun token project account =>
        (exchange token project account).map Subtype.val).2 := by
  cases hask : switchAsk k desk.cab key project with
  | error err => simp [SwitchDesk.serve, h, hask, switchPost, switchResult]
  | ok triple =>
    obtain ⟨session, user, token⟩ := triple
    cases hexchange : exchange token (strip project) user.account with
    | error err =>
      simp [SwitchDesk.serve, SwitchDesk.move, h, hask, hexchange, switchPost, switchResult,
        Except.map]
    | ok result =>
      simp [SwitchDesk.serve, SwitchDesk.move, h, hask, hexchange, switchPost, switchResult,
        Except.map, Cabinet.applyScope]

/-! ### Steps -/

theorem noneStored_move {phase' : Option (SwitchPhase scopeOf)} : (desk.move id phase').NoneStored ↔
    (∀ phase, phase' = some phase → phase.isStored = false) ∧
      ∀ other, other ≠ id → ∀ phase, desk.flight other = some phase → phase.isStored = false := by
  constructor
  · intro h
    refine ⟨fun phase hphase => h id phase ?_, fun other hne phase hphase => h other phase ?_⟩
    · rw [SwitchDesk.flight_move_self, hphase]
    · rw [SwitchDesk.flight_move_of_ne _ hne, hphase]
  · rintro ⟨hself, hothers⟩ other phase hphase
    by_cases hsame : other = id
    · subst hsame
      rw [SwitchDesk.flight_move_self] at hphase
      exact hself phase hphase
    · rw [SwitchDesk.flight_move_of_ne _ hsame] at hphase
      exact hothers other hsame phase hphase

/-- What a step does: nothing, a move before the store, or one of the later steps of a switch. -/
inductive SwitchServed (k : Crypto) (c : Casing) (key : String) (desk : SwitchDesk scopeOf) :
    SwitchStep scopeOf → SwitchDesk scopeOf → Prop
  | nothing (step : SwitchStep scopeOf) : SwitchServed k c key desk step desk
  | early {step : SwitchStep scopeOf} {id : ℕ} {phase' : Option (SwitchPhase scopeOf)}
      (hnumber : step.number = some id)
      (hid : ∀ phase, desk.flight id = some phase → phase.isStored = false)
      (hphase : ∀ phase, phase' = some phase → phase.isStored = false) :
      SwitchServed k c key desk step (desk.move id phase')
  | store {id : ℕ} {iv : String} {session : CabinetSession} {user : User}
      {result : ProjectAnswer scopeOf}
      (h : desk.flight id = some (.exchanged session user result)) :
      SwitchServed k c key desk (.store id iv)
        { desk.move id (some (.stored session user result)) with
          cab := { desk.cab with
            vault := Vault.store k desk.cab.vault desk.cab.now key iv result.1.token }
          lastStored := some result }
  | scope {id : ℕ} {session : CabinetSession} {user : User} {result : ProjectAnswer scopeOf}
      (h : desk.flight id = some (.stored session user result)) :
      SwitchServed k c key desk (.scope id)
        { desk.move id (some (.rescoped (session.applyScope result.1))) with
          cab := { desk.cab with users := syncRole c desk.cab.users user result.1 } }
  | save {id : ℕ} {session : CabinetSession} (h : desk.flight id = some (.rescoped session)) :
      SwitchServed k c key desk (.save id)
        { desk.move id none with
          cab := { desk.cab with
            sessions := Function.update desk.cab.sessions key (some session) } }
  | pass (duration : ℕ) : SwitchServed k c key desk (.pass duration)
      { desk with cab := { desk.cab with now := desk.cab.now + duration } }

/-- A step acts on a switch in the phase before it, and does nothing otherwise. -/
theorem switchServed (step : SwitchStep scopeOf) :
    SwitchServed k c key desk step (desk.serve k c key step) := by
  cases step with
  | ask id project =>
    rw [SwitchDesk.serve]
    split
    · rename_i hflight _
      exact .early rfl (fun _ hphase => by rw [hflight] at hphase; cases hphase) fun _ hphase => by
        cases hphase; rfl
    · exact .nothing _
  | exchange id exchange =>
    rw [SwitchDesk.serve]
    split
    · rename_i session user token project hflight
      have hid : ∀ phase, desk.flight id = some phase → phase.isStored = false := by
        intro phase hphase
        rw [hflight] at hphase
        obtain rfl := Option.some.inj hphase
        rfl
      split
      · exact .early rfl hid fun _ hphase => by cases hphase; rfl
      · exact .early rfl hid fun _ hphase => by cases hphase
    · exact .nothing _
  | store id iv =>
    rw [SwitchDesk.serve]
    split
    · exact .store ‹_›
    · exact .nothing _
  | scope id =>
    rw [SwitchDesk.serve]
    split
    · exact .scope ‹_›
    · exact .nothing _
  | save id =>
    rw [SwitchDesk.serve]
    split
    · exact .save ‹_›
    · exact .nothing _
  | pass duration => exact .pass duration

theorem flight_serve {step : SwitchStep scopeOf} (h : step.number ≠ some id) :
    (desk.serve k c key step).flight id = desk.flight id := by
  have hserved := @switchServed _ k c key desk step
  generalize desk.serve k c key step = desk' at hserved ⊢
  cases hserved with
  | nothing => rfl
  | early hnumber =>
    refine SwitchDesk.flight_move_of_ne _ ?_ _
    rintro rfl
    exact h hnumber
  | store | scope | save =>
    exact SwitchDesk.flight_move_of_ne _ (fun heq => h (congrArg some heq.symm)) _
  | pass => rfl

theorem flight_of_run
    {C : List (SwitchStep scopeOf) → SwitchDesk scopeOf → SwitchStep scopeOf → Prop}
    {steps : List (SwitchStep scopeOf)} (hrun : (switches k c key).Run C desk steps desk')
    (h : ∀ step ∈ steps, step.number ≠ some id) : desk'.flight id = desk.flight id := by
  induction hrun with
  | nil => rfl
  | snoc _ _ hstep ih =>
    obtain rfl := Option.some.inj hstep
    rw [flight_serve (h _ (List.mem_append_right _ (List.mem_singleton_self _)))]
    exact ih fun step hmem => h step (List.mem_append_left _ hmem)

theorem idle_of_run {C : List (SwitchStep scopeOf) → SwitchDesk scopeOf → SwitchStep scopeOf → Prop}
    {steps : List (SwitchStep scopeOf)} {cab₀ : Cabinet}
    (hrun : (switches k c key).Run C ⟨cab₀, fun _ => none, none⟩ steps desk) {numbers : List ℕ}
    (hsteps : ∀ step ∈ steps, ∀ id ∈ step.number, id ∈ numbers)
    (hover : (numbers.all fun id => (desk.flight id).isNone) = true) (id : ℕ) :
    desk.flight id = none := by
  by_cases hid : id ∈ numbers
  · exact Option.isNone_iff_eq_none.1 (List.all_eq_true.1 hover id hid)
  · exact flight_of_run hrun fun step hstep heq => hid (hsteps step hstep id heq)

theorem not_noneStored (h : desk.flight id = some phase) (hstored : phase.isStored = true) :
    ¬ desk.NoneStored := by
  intro hnone
  rw [hnone id phase h] at hstored
  cases hstored

/-- What the vault and the session have to do with the token stored last. -/
structure SwitchDesk.Tracked (k : Crypto) (key : String) (desk : SwitchDesk scopeOf) : Prop where
  start : desk.lastStored = none → desk.Agree k key ∧ desk.NoneStored
  vault : ∀ result, desk.lastStored = some result → ∀ token,
    Vault.Holds k desk.cab.vault desk.cab.now key token → token = result.1.token
  settled : ∀ result, desk.lastStored = some result → desk.NoneStored →
    ∀ session, desk.cab.sessions key = some session → session.projectId = result.1.projectId

/-- A move before the store changes nothing that is tracked. -/
theorem SwitchDesk.Tracked.move (h : desk.Tracked k key)
    (hid : ∀ phase, desk.flight id = some phase → phase.isStored = false)
    {phase' : Option (SwitchPhase scopeOf)}
    (hphase : ∀ phase, phase' = some phase → phase.isStored = false) :
    (desk.move id phase').Tracked k key := by
  have hnone : (desk.move id phase').NoneStored ↔ desk.NoneStored := by
    rw [noneStored_move]
    constructor
    · rintro ⟨-, hothers⟩ other phase hother
      by_cases hsame : other = id
      · subst hsame
        exact hid phase hother
      · exact hothers other hsame phase hother
    · exact fun hall => ⟨hphase, fun other _ => hall other⟩
  refine ⟨fun hstart => ?_, h.vault, fun result hresult hmoved => ?_⟩
  · obtain ⟨hagree, hall⟩ := h.start hstart
    exact ⟨hagree, hnone.2 hall⟩
  · exact h.settled result hresult (hnone.1 hmoved)

/-- One step keeps track. -/
theorem SwitchDesk.Tracked.step (h : desk.Tracked k key) {step : SwitchStep scopeOf}
    (hlast : SavesLast desk step) : (desk.serve k c key step).Tracked k key := by
  have hserved := @switchServed _ k c key desk step
  generalize desk.serve k c key step = desk' at hserved ⊢
  cases hserved with
  | nothing => exact h
  | early hnumber hid hphase => exact h.move hid hphase
  | store hflight =>
    refine ⟨?_, ?_, ?_⟩
    · rintro ⟨⟩
    · rintro _ ⟨⟩ token hholds
      exact Vault.eq_of_holds_store hholds
    · -- this switch has stored now, and will save
      intro _ _ hnone
      have hstored := (noneStored_move.1 hnone).1 _ rfl
      cases hstored
  | scope hflight =>
    refine ⟨fun hstart => ?_, h.vault, fun _ _ hnone => ?_⟩
    · exact absurd (h.start hstart).2 (not_noneStored hflight rfl)
    · have hstored := (noneStored_move.1 hnone).1 _ rfl
      cases hstored
  | save hflight =>
    rename_i id session
    refine ⟨fun hstart => ?_, h.vault, fun result hresult hnone session' hsession => ?_⟩
    · exact absurd (h.start hstart).2 (not_noneStored hflight rfl)
    · -- it is the last to save, so the condition applies
      have hsaved : Function.update desk.cab.sessions key (some session) key = some session' :=
        hsession
      rw [Function.update_self] at hsaved
      obtain rfl := Option.some.inj hsaved
      exact (hlast session hflight hnone result hresult).symm
  | pass duration =>
    refine ⟨fun hstart => ?_, fun result hresult token hholds => ?_, h.settled⟩
    -- a token that is held later is held now
    · obtain ⟨hagree, hall⟩ := h.start hstart
      refine ⟨fun session token hsession hholds => ?_, hall⟩
      exact hagree session token hsession (hholds.of_le (Nat.le_add_right _ _))
    · exact h.vault result hresult token (hholds.of_le (Nat.le_add_right _ _))

end

/-- **Switches that overlap.**  From a session that agrees with its vaulted token, in every run in
which a switch that saves last saves the project of the token stored last, the session agrees with
its vaulted token whenever no switch is in flight. -/
theorem agree_of_run {scopeOf : String → Option String} {k : Crypto} {c : Casing} {key : String}
    {cab₀ : Cabinet} {desk : SwitchDesk scopeOf} {steps : List (SwitchStep scopeOf)}
    (h₀ : SwitchDesk.Agree (⟨cab₀, fun _ => none, none⟩ : SwitchDesk scopeOf) k key)
    (hrun : (switches k c key).Run (fun _ desk step => SavesLast desk step) ⟨cab₀,
      fun _ => none, none⟩
      steps desk) (hidle : ∀ id, desk.flight id = none) : desk.Agree k key := by
  have hstart : SwitchDesk.Tracked k key (⟨cab₀, fun _ => none, none⟩ : SwitchDesk scopeOf) := by
    refine ⟨fun _ => ⟨h₀, ?_⟩, ?_, ?_⟩
    · rintro _ _ ⟨⟩
    · rintro _ ⟨⟩
    · rintro _ ⟨⟩
  have htracked : desk.Tracked k key := by
    refine hrun.invariant (I := fun _ desk => desk.Tracked k key) hstart ?_
    intro _ desk step _ h hlast hstep
    obtain rfl := Option.some.inj hstep
    exact h.step hlast
  have hnone : desk.NoneStored := by
    intro id phase hphase
    rw [hidle id] at hphase
    cases hphase
  intro session token hsession hholds
  cases hlast : desk.lastStored with
  | none => exact (htracked.start hlast).1 session token hsession hholds
  | some result =>
    calc session.projectId
      _ = result.1.projectId := htracked.settled result hlast hnone session hsession
      _ = scopeOf result.1.token := result.2.symm
      _ = scopeOf token := by rw [htracked.vault result hlast token hholds]

/-! ### Two switches of one session -/

/-- The switch saves the project of the token stored last. -/
def SavesStored {scopeOf : String → Option String} (desk : SwitchDesk scopeOf) :
    SwitchStep scopeOf → Prop
  | .save id =>
    match desk.flight id with
    | some (.rescoped session) => desk.lastStored.map (fun result => result.1.projectId) =
      some session.projectId
    | _ => True
  | _ => True

instance {scopeOf : String → Option String} (desk : SwitchDesk scopeOf) :
    ∀ step, Decidable (SavesStored desk step)
  | .save id => by
    -- one case for each phase of the switch
    unfold SavesStored
    dsimp only
    split <;> infer_instance
  | .ask .. | .exchange .. | .store .. | .scope _ | .pass _ => inferInstanceAs (Decidable True)

theorem savesLast_of_savesStored {scopeOf : String → Option String} {desk : SwitchDesk scopeOf}
    {step : SwitchStep scopeOf} (h : SavesStored desk step) : SavesLast desk step := by
  cases step with
  | save id =>
    intro session hflight _ result hlast
    rw [SavesStored, hflight] at h
    dsimp only at h
    rw [hlast] at h
    exact Option.some.inj h
  | _ => trivial

/-- A token names its project. -/
def tokenProject (token : String) : Option String :=
  some (String.ofList (token.toList.drop "token-".length))

/-- The cloud exchanges tokens for the project `p2`. -/
def toP2 (_ _ _ : String) : Except ZadaraError (ProjectAnswer tokenProject) :=
  .ok ⟨annScope "p2" ["_member_"], by decide +kernel⟩

/-- And for the project `p3`. -/
def toP3 (_ _ _ : String) : Except ZadaraError (ProjectAnswer tokenProject) :=
  .ok ⟨annScope "p3" ["_member_"], by decide +kernel⟩

/-- The cabinet after a sign-in into `p1`. -/
def annCabinet : Cabinet :=
  serveCabinet sampleCrypto .ascii emptyCabinet (.signIn "" "s1" "Acme" "p1" "" annCloud)

theorem agree_annCabinet :
    SwitchDesk.Agree (⟨annCabinet, fun _ => none, none⟩ : SwitchDesk tokenProject) sampleCrypto
      "s1" := by
  have hsession : annCabinet.sessions "s1" =
    some ⟨"u1", some "p1", some "p1", "project", ["_member_"]⟩ := by
    decide +kernel
  have hvault : annCabinet.vault = Vault.store sampleCrypto [] 0 "s1" "" "token-p1" := rfl
  intro session token hfound hholds
  obtain rfl := Option.some.inj (hsession.symm.trans hfound)
  obtain rfl := Vault.eq_of_holds_store (hvault ▸ hholds)
  decide +kernel

/-- Two switches start together, and the second one stores and saves after the first one is done. -/
def oneByOne : List (SwitchStep tokenProject) :=
  [.ask 1 "p2", .ask 2 "p3", .exchange 1 toP2, .exchange 2 toP3, .store 1 "", .scope 1, .save 1,
    .store 2 "", .scope 2, .save 2]

theorem agree_of_run_ann :
    ∃ desk : SwitchDesk tokenProject,
      (desk.cab.sessions "s1").map CabinetSession.projectId = some (some "p3") ∧
      desk.Agree sampleCrypto "s1" := by
  have hdesk :
    (System.execAll (fun desk step => some (SwitchDesk.serve desk sampleCrypto .ascii "s1" step))
      (fun _ desk step => SavesStored desk step) [] ⟨annCabinet, fun _ => none, none⟩ oneByOne).map
        (fun desk =>
        ((desk.cab.sessions "s1").map CabinetSession.projectId,
          [1, 2].all fun id => (desk.flight id).isNone)) = some (some (some "p3"), true) := by
    decide +kernel
  obtain ⟨desk, hexec, hpair⟩ := Option.map_eq_some_iff.1 hdesk
  obtain ⟨hproject, hover⟩ := Prod.mk.inj hpair
  have hrun := (System.Run.of_exec hexec).mono fun _ _ _ => savesLast_of_savesStored
  refine ⟨desk, hproject, agree_of_run agree_annCabinet hrun ?_⟩
  exact idle_of_run hrun (by decide) hover

/-- Two switches store in one order and save in the other. -/
def crossedSwitches : List (SwitchStep tokenProject) :=
  [.ask 1 "p2", .ask 2 "p3", .exchange 1 toP2, .exchange 2 toP3, .store 1 "", .store 2 "", .scope 1,
    .scope 2, .save 2, .save 1]

/-- The session is left with the project of one and the token of the other. -/
theorem crossed :
    ∃ desk, (switches sampleCrypto .ascii "s1").Run System.Free
        ⟨annCabinet, fun _ => none, none⟩ crossedSwitches desk ∧
      (∀ id, desk.flight id = none) ∧
      (desk.cab.sessions "s1").map CabinetSession.projectId = some (some "p2") ∧
      (Vault.get sampleCrypto desk.cab.vault desk.cab.now "s1").map tokenProject =
        some (some "p3") := by
  have hdesk :
    (System.execAll (fun desk step => some (SwitchDesk.serve desk sampleCrypto .ascii "s1" step))
      System.Free [] ⟨annCabinet, fun _ => none, none⟩ crossedSwitches).map (fun desk =>
        ([1, 2].all (fun id => (desk.flight id).isNone),
          (desk.cab.sessions "s1").map CabinetSession.projectId,
          (Vault.get sampleCrypto desk.cab.vault desk.cab.now "s1").map tokenProject)) =
      some (true, some (some "p2"), some (some "p3")) := by decide +kernel
  obtain ⟨desk, hexec, htriple⟩ := Option.map_eq_some_iff.1 hdesk
  obtain ⟨hover, hpair⟩ := Prod.mk.inj htriple
  obtain ⟨hproject, htoken⟩ := Prod.mk.inj hpair
  have hrun := System.Run.of_exec hexec
  exact ⟨desk, hrun, idle_of_run hrun (by decide) hover, hproject, htoken⟩

end OpenCloud
