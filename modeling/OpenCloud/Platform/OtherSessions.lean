import OpenCloud.Platform.Passwords

/-!
# Sessions after a change of the password

A session holds the key of an operator and nothing else, and that is all a request is authenticated
by; the view that changes the password writes the password.  A session is known by its place among
the sessions: two of one operator may hold the same.

## Main results

* `endsOthers_iff` : a change of the password ends the operator's other sessions exactly if there
  are none.
-/

namespace OpenCloud

/-- `PlatformSessionAuthentication.authenticate`, for the session at a place. -/
def Desk.authenticated (desk : Desk) (i : ℕ) : Option PlatformAdmin :=
  desk.sessions[i]?.bind fun session =>
    if desk.now < session.expires then desk.admins.activeByPk session.adminId else none

/-- The session at a place authenticates as the operator of this key. -/
def Desk.LiveFor (desk : Desk) (pk i : ℕ) : Prop :=
  ∃ admin, desk.authenticated i = some admin ∧ admin.pk = pk

/-- From `desk` to `desk'` the other sessions of the operator have ended, `i` being its own. -/
structure EndsOthers (desk desk' : Desk) (pk i : ℕ) : Prop where
  own : desk'.LiveFor pk i
  others : ∀ j, j ≠ i → desk.LiveFor pk j → desk'.authenticated j = none
  strangers : ∀ j admin, desk.authenticated j = some admin → admin.pk ≠ pk →
    desk'.authenticated j = some admin

section

variable {k : Crypto} {isAlpha : Char → Bool} {desk : Desk} {session : Session}
  {current new salt : String} {admin : PlatformAdmin} {i : ℕ}

theorem authenticated_eq_operatorOf (h : desk.sessions[i]? = some session) :
    desk.authenticated i = desk.operatorOf session := by
  have hmem : session ∈ desk.sessions := List.mem_of_getElem? h
  unfold Desk.authenticated Desk.operatorOf
  simp [h, hmem]

namespace OperatorTable

variable {table : OperatorTable} {pk pk' : ℕ} {change : PlatformAdmin → PlatformAdmin}

theorem activeByPk_save (h : KeepsIdentity change)
    (hactive : ∀ a, (change a).isActive = a.isActive) :
    (table.save pk change h).activeByPk pk' =
      (table.activeByPk pk').map fun a => if a.pk = pk then change a else a := by
  have hsame : (fun a : PlatformAdmin => decide ((if a.pk = pk then change a else a).pk = pk' ∧
      (if a.pk = pk then change a else a).isActive = true)) =
        fun a => decide (a.pk = pk' ∧ a.isActive = true) := by
    funext a
    split_ifs with ha
    · rw [(h a).1, hactive]
    · rfl
  simp only [activeByPk, save, List.find?_map, Function.comp_def, hsame]

end OperatorTable

/-- A change that succeeds writes the password of the session's operator, and nothing else but its
record. -/
theorem passwordChangePost_eq_ok {desk' : Desk}
    (h : passwordChangePost k isAlpha desk session current new salt =
    (.ok (), desk')) : ∃ admin, desk.operatorOf session = some admin ∧
      desk'.sessions = desk.sessions ∧
      desk'.now = desk.now ∧ desk'.admins =
        desk.admins.save admin.pk (admin.setPassword k salt new).savePassword
        (keepsIdentity_savePassword _) := by
  unfold passwordChangePost at h
  cases hadmin : desk.operatorOf session with
  | none => simp [hadmin] at h
  | some admin =>
    simp only [hadmin] at h
    split_ifs at h with hcheck
    · cases h
    · cases hproblem : passwordProblem k isAlpha new with
      | some problem => simp [hproblem] at h
      | none =>
        simp only [hproblem] at h
        cases h
        exact ⟨admin, rfl, rfl, rfl, rfl⟩

theorem authenticated_of_changed {desk' : Desk} (hsessions : desk'.sessions = desk.sessions)
    (hnow : desk'.now = desk.now) {new : PlatformAdmin} (hadmins : desk'.admins =
      desk.admins.save admin.pk new.savePassword (keepsIdentity_savePassword _)) (j : ℕ) :
    desk'.authenticated j =
      (desk.authenticated j).map fun a => if a.pk = admin.pk then new.savePassword a else a := by
  unfold Desk.authenticated
  rw [hsessions, hnow, hadmins]
  cases desk.sessions[j]? with
  | none => rfl
  | some session =>
    simp only [Option.bind_some]
    split_ifs
    · exact OperatorTable.activeByPk_save _ fun _ => rfl
    · rfl

/-- **Changing the password ends the operator's other sessions** exactly where there are none. -/
theorem endsOthers_iff {desk' : Desk} (hplace : desk.sessions[i]? = some session)
    (h : passwordChangePost k isAlpha desk session current new salt = (.ok (), desk')) : ∃ admin,
    desk.authenticated i = some admin ∧
      (EndsOthers desk desk' admin.pk i ↔ ∀ j, j ≠ i → ¬ desk.LiveFor admin.pk j) := by
  obtain ⟨admin, hoperator, hsessions, hnow, hadmins⟩ := passwordChangePost_eq_ok h
  have hafter := authenticated_of_changed hsessions hnow hadmins
  have hown : desk.authenticated i = some admin :=
    (authenticated_eq_operatorOf hplace).trans hoperator
  refine ⟨admin, hown, fun hends j hj hlive => ?_, fun hnone => ?_⟩
  · obtain ⟨other, hother, hpk⟩ := hlive
    have hgone := hends.others j hj ⟨other, hother, hpk⟩
    -- it holds the key of a row that is still there
    rw [hafter, hother] at hgone
    cases hgone
  · constructor
    case own => exact ⟨_, by rw [hafter, hown]; rfl, by simp [PlatformAdmin.savePassword]⟩
    case others => exact fun j hj hlive => absurd hlive (hnone j hj)
    case strangers =>
      intro j stranger hstranger hpk
      rw [hafter, hstranger, Option.map_some, if_neg hpk]

end

/-! ### Some browsers -/

/-- A second operator. -/
def supportOperator : PlatformAdmin :=
  { freshOperator with pk := 2, email := "support@opencloud.uz", name := "Support" }

/-- Browsers of these operators, each signed in at its own moment. -/
def browsers (operators : List ℕ) : Desk :=
  { freshDesk with
    admins := ⟨[freshOperator, supportOperator], by decide⟩
    sessions := operators.mapIdx fun i pk => ⟨pk, i + seconds sessionSeconds⟩
    now := operators.length }

/-- The password is changed in the first one, which is the owner's. -/
def changeInFirst (others : List ℕ) : Except AppError Unit × Desk :=
  passwordChangePost sampleCrypto Char.isAlpha (browsers (1 :: others))
    ⟨1, 0 + seconds sessionSeconds⟩ "pw"
    "second-password-2" ""

/-- Beside another operator's browser the owner has no other session; beside one of the owner's, it
goes on. -/
theorem endsOthers_iff_browsers : EndsOthers (browsers [1, 2]) (changeInFirst [2]).2 1 0 ∧
    ¬ EndsOthers (browsers [1, 1, 2]) (changeInFirst [1, 2]).2 1 0 := by
  constructor
  · obtain ⟨admin, hown, hiff⟩ := endsOthers_iff (rfl : (browsers [1, 2]).sessions[0]? = some _)
      (Prod.ext rfl rfl : changeInFirst [2] = (.ok (), (changeInFirst [2]).2))
    have howner : (browsers [1, 2]).authenticated 0 = some freshOperator := by decide +kernel
    have hsupport : (browsers [1, 2]).authenticated 1 = some supportOperator := by decide +kernel
    obtain rfl : freshOperator = admin := Option.some.inj (howner.symm.trans hown)
    refine hiff.2 fun j hj hlive => ?_
    obtain ⟨other, hother, hpk⟩ := hlive
    obtain _ | _ | j := j
    · exact hj rfl
    · obtain rfl : supportOperator = other := Option.some.inj (hsupport.symm.trans hother)
      cases hpk
    · have hnone : (browsers [1, 2]).authenticated (j + 2) = none := rfl
      cases hnone.symm.trans hother
  · obtain ⟨admin, hown, hiff⟩ := endsOthers_iff (rfl : (browsers [1, 1, 2]).sessions[0]? = some _)
      (Prod.ext rfl rfl : changeInFirst [1, 2] = (.ok (), (changeInFirst [1, 2]).2))
    have howner : ∀ i < 2, (browsers [1, 1, 2]).authenticated i = some freshOperator := by
      decide +kernel
    obtain rfl : freshOperator = admin := Option.some.inj ((howner 0 (by decide)).symm.trans hown)
    exact fun hends => hiff.1 hends 1 (by decide) ⟨freshOperator, howner 1 (by decide), rfl⟩

/-- The session of the second browser outlives the change. -/
theorem outlives_change : (browsers [1, 1]).LiveFor 1 1 ∧ (changeInFirst [1]).1 = .ok () ∧
    (changeInFirst [1]).2.LiveFor 1 1 ∧
      ¬ EndsOthers (browsers [1, 1]) (changeInFirst [1]).2 1 0 := by
  have hbefore : (browsers [1, 1]).LiveFor 1 1 := ⟨freshOperator, by decide +kernel, rfl⟩
  refine ⟨hbefore, rfl,
    ⟨{ freshOperator with passwordHash := "second-password-2" }, by decide +kernel, rfl⟩, ?_⟩
  intro hends
  have hgone := hends.others 1 (by decide) hbefore
  exact absurd hgone (by decide +kernel)

end OpenCloud
