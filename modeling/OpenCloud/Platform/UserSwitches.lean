import OpenCloud.Compute.Views
import OpenCloud.Lib.Caches

/-!
# Turning a user off, or back on

An operator has two switches for a user, and they are not the same thing: `enabled` is the user of
the cloud, `cabinetStatus` the local row.  The view flips one after the other, drops the cached list
of the account's users and records what it changed.

`UserDesk.made` is not in the code: it keeps the changes that took effect, that is the writes the
cloud accepted and the rows that were updated, so that what is recorded can be compared with them.
The rows of the journal are written without failing.

## Main results

* `allOrNothing_iff` : when a request changes everything it says, on record, or nothing.
-/

namespace OpenCloud

/-- A value of a JSON object. -/
inductive JsonField where
  | null
  | flag (b : Bool)
  /-- A number; it counts as false if it is zero. -/
  | number (zero : Bool)
  | text (s : String)
  /-- A list or an object; it counts as false if it is empty. -/
  | collection (empty : Bool)
  deriving DecidableEq

namespace JsonField

/-- `bool(x)`. -/
def truth : JsonField → Bool
  | null => false
  | flag b => b
  | number zero => !zero
  | text s => s != ""
  | collection empty => !empty

/-- `(x or '').strip()`, none where `x` has no `strip`. -/
def stripped : JsonField → Option String
  | text s => some (strip s)
  | field => if field.truth then none else some ""

end JsonField

/-- `User.status`. -/
inductive CabinetStatus where
  | active
  | blocked
  deriving DecidableEq

namespace CabinetStatus

def value : CabinetStatus → String
  | active => "active"
  | blocked => "blocked"

/-- The status of a name. -/
def ofValue (value : String) : Option CabinetStatus :=
  [active, blocked].find? fun s => s.value = value

end CabinetStatus

/-- A row of `users`, with its status. -/
structure UserRow extends User where
  status : CabinetStatus

/-- A change of a user. -/
inductive UserChange where
  | enabled (value : Bool)
  | cabinetStatus (value : CabinetStatus)
  deriving DecidableEq

/-- A change in a detail. -/
def UserChange.detail : UserChange → String × Detail
  | enabled value => ("enabled", .flag value)
  | cabinetStatus value => ("cabinetStatus", .text value.value)

/-- What the switches read and write, and the changes that took effect. -/
structure UserDesk (W : Type) where
  cloud : W
  users : List UserRow
  lists : Cache String (List (String × String))
  journal : List AdminAction
  made : List UserChange

/-- The payload of a switch. -/
structure SwitchData where
  account : JsonField
  enabled : JsonField
  cabinetStatus : JsonField

/-- Why a switch answers an error: an `AppError`, an error of the cloud that it does not catch, or
another exception. -/
inductive PatchError where
  | app (err : AppError)
  | cloud (err : ZadaraError)
  | crash

/-- An exception that the view does not catch. -/
def PatchError.ofRaised : Raised → PatchError
  | .zadara err => .cloud err
  | .other _ => .crash

/-- The answer of a switch. -/
structure PatchedUser where
  id : String
  changed : List UserChange

/-- The status a payload asks for. -/
def JsonField.status : JsonField → Except PatchError CabinetStatus
  -- a list or an object is not hashable, which the set finds out
  | collection _ => .error .crash
  | text s => match CabinetStatus.ofValue s with
    | some status => .ok status
    | none => .error (.app ⟨"Unknown cabinet status.", "invalid_request", 400⟩)
  | _ => .error (.app ⟨"Unknown cabinet status.", "invalid_request", 400⟩)

/-- The key of the cached list of an account's users. -/
def accountUsersKey (accountId : String) : String := "platform_account_users:" ++ accountId

namespace UserDesk

variable {W : Type} (desk : UserDesk W)

/-- `services.record` of a switch. -/
def record (email account userId : String) (outcome : Outcome) (errorCode : String)
    (detail : List (String × Detail)) : UserDesk W :=
  { desk with journal := desk.journal ++
      [⟨orElse email "anonymous", "user.update", account, "user", userId, "", outcome, errorCode,
        detail⟩] }

/-- `_forget_account_users`, if the account was found. -/
def forget (domainId : Option String) : UserDesk W :=
  match keep domainId with
  | none => desk
  | some domainId => { desk with lists := desk.lists.delete (accountUsersKey domainId) }

/-- The row of the user in an account of that name. -/
def IsRow (c : Casing) (account userId : String) (u : UserRow) : Prop :=
  c.iexact u.account account ∧ u.userId = userId

instance (c : Casing) (account userId : String) : DecidablePred (IsRow c account userId) :=
  fun u => inferInstanceAs (Decidable (c.upper u.account = c.upper account ∧ u.userId = userId))

/-- There is a local row of the user. -/
def HasRow (c : Casing) (account userId : String) : Prop :=
  ∃ u ∈ desk.users, IsRow c account userId u

instance (c : Casing) (account userId : String) : Decidable (desk.HasRow c account userId) :=
  inferInstanceAs (Decidable (∃ u ∈ desk.users, IsRow c account userId u))

/-- `get_service_token` and `update_user`. -/
def switchEnabled (up : Upstream W) (userId : String) (enabled : Bool) :
    Except ZadaraError Unit × UserDesk W :=
  match up.serviceToken with
  | .error err => (.error err, desk)
  | .ok token =>
    match updateUser up.toWriteApi token userId
      ⟨none, none, some enabled, none, none⟩ desk.cloud with
    | (.error err, cloud) => (.error err, { desk with cloud := cloud })
    | (.ok _, cloud) =>
      (.ok (), { desk with cloud := cloud, made := desk.made ++ [.enabled enabled] })

/-- The update of the local row, if there is one. -/
def switchStatus (c : Casing) (account userId : String) (status : CabinetStatus) : UserDesk W :=
  { desk with
    users := desk.users.map fun u => if IsRow c account userId u then
      { u with status := status } else u
    made := if desk.HasRow c account userId then
      desk.made ++ [.cabinetStatus status] else desk.made }

/-- The first switch, and what it changed. -/
def patchEnabled (up : Upstream W) (email account userId : String) (enabled : JsonField) :
    Except PatchError (List UserChange) × UserDesk W :=
  if enabled = .null then (.ok [], desk)
  else match desk.switchEnabled up userId enabled.truth with
    -- the detail is nested: `attempted` is an object of this one field
    | (.error err, desk) => (.error (.app ⟨"The cloud refused the change.", err.code, 502⟩),
        desk.record email account userId .failure err.code
          [("attempted.enabled", .flag enabled.truth)])
    | (.ok _, desk) => (.ok [.enabled enabled.truth], desk)

/-- The second switch, and what it is said to have changed. -/
def patchStatus (c : Casing) (account userId : String) (cabinetStatus : JsonField) :
    Except PatchError (List UserChange) × UserDesk W :=
  if cabinetStatus = .null then (.ok [], desk)
  else match cabinetStatus.status with
    | .error err => (.error err, desk)
    | .ok status => (.ok [.cabinetStatus status], desk.switchStatus c account userId status)

/-- The end of the view, once both switches are flipped. -/
def patchDone (c : Casing) (up : Upstream W) (email account userId : String)
    (changed : List UserChange) :
    Except PatchError PatchedUser × UserDesk W :=
  match up.resolveDomainId c account with
  | .error raised => (.error (.ofRaised raised), desk)
  | .ok domainId => (.ok ⟨userId, changed⟩,
      (desk.forget domainId).record email account userId .success ""
        (changed.map UserChange.detail))

/-- The view from the second switch on, the first one having changed `changed`. -/
def patchRest (c : Casing) (up : Upstream W) (email account userId : String)
    (changed : List UserChange) (cabinetStatus : JsonField) :
    Except PatchError PatchedUser × UserDesk W :=
  match desk.patchStatus c account userId cabinetStatus with
  | (.error err, desk) => (.error err, desk)
  | (.ok changed', desk) => desk.patchDone c up email account userId (changed ++ changed')

/-- `UserDetailView.patch`; there is no data where the body is not an object. -/
def userPatch (c : Casing) (up : Upstream W) (email userId : String) (data : Option SwitchData) :
    Except PatchError PatchedUser × UserDesk W :=
  match data with
  | none => (.error .crash, desk)
  | some data =>
    match data.account.stripped with
    | none => (.error .crash, desk)
    | some account =>
      if account = "" then (.error (.app ⟨"`account` is required.", "invalid_request", 400⟩), desk)
      else if data.enabled = .null ∧ data.cabinetStatus = .null then
        (.error (.app ⟨"Nothing to change.", "invalid_request", 400⟩), desk)
      else match desk.patchEnabled up email account userId data.enabled with
        | (.error err, desk) => (.error err, desk)
        | (.ok changed, desk) => desk.patchRest c up email account userId changed data.cabinetStatus

end UserDesk

/-! ### All, logged, or nothing -/

section

variable {W : Type} (c : Casing) (up : Upstream W) (accountId userId : String) (now : Instant)

/-- A write of the cloud that raises changes nothing. -/
def RaisesBare : Prop := ∀ token fields cloud err cloud',
  updateUser up.toWriteApi token userId fields cloud = (.error err, cloud') → cloud' = cloud

/-- The cloud accepts that the user is turned off, or on. -/
def Accepts (cloud : W) (enabled : Bool) : Prop := ∃ token b cloud', up.serviceToken = .ok token ∧
  updateUser up.toWriteApi token userId ⟨none, none, some enabled, none, none⟩ cloud =
    (.ok b, cloud')

/-- From `desk` to `desk'`, with that answer: all, logged, or nothing.  `accountId` is the id of the
account, under which its users are cached. -/
structure AllOrNothing (desk desk' : UserDesk W) (out : Except PatchError PatchedUser) : Prop where
  nothing : out.isOk = false → desk'.made = desk.made ∧ desk'.cloud = desk.cloud ∧
    desk'.users = desk.users
  logged : desk'.made ≠ desk.made → ∃ row ∈ desk'.journal.drop desk.journal.length,
    row.action = "user.update" ∧ row.targetId = userId ∧ row.outcome = .success ∧
      row.detail = (desk'.made.drop desk.made.length).map UserChange.detail
  dropped : desk'.made ≠ desk.made → desk'.lists.get now (accountUsersKey accountId) = none

/-- The cabinet status is one that reaches a local row. -/
def Reaches (desk : UserDesk W) (account : String) (cabinetStatus : JsonField) : Prop :=
  ∃ status, cabinetStatus.status = .ok status ∧ desk.HasRow c account userId

/-- The directory is read and lists the account, or its users are not cached. -/
def Drops (desk : UserDesk W) (account : String) : Prop :=
  ∃ domainId, up.resolveDomainId c account = .ok domainId ∧
    (keep domainId = some accountId ∨ desk.lists.get now (accountUsersKey accountId) = none)

/-- Of a request that changes something: the cabinet status, if it is given, reaches a local row
too, and the directory is read and lists the account, or its users are not cached. -/
def SwitchSettled (desk : UserDesk W) (data : SwitchData) : Prop :=
  ∀ account, data.account.stripped = some account → account ≠ "" →
    (if data.enabled = .null then Reaches c userId desk account data.cabinetStatus
      else Accepts up userId desk.cloud data.enabled.truth) →
    (data.cabinetStatus = .null ∨ Reaches c userId desk account data.cabinetStatus) ∧
      Drops c up accountId now desk account

variable {c up accountId userId now} {desk desk' : UserDesk W} {out : Except PatchError PatchedUser}
  {email account : String}

theorem allOrNothing_of_unchanged (hmade : desk'.made = desk.made)
    (hcloud : desk'.cloud = desk.cloud) (husers : desk'.users = desk.users) :
    AllOrNothing accountId userId now desk desk' out :=
  ⟨fun _ => ⟨hmade, hcloud, husers⟩, fun h => absurd hmade h, fun h => absurd hmade h⟩

theorem not_allOrNothing_of_error (hmade : desk'.made ≠ desk.made) (hout : out.isOk = false) :
    ¬ AllOrNothing accountId userId now desk desk' out :=
  fun h => hmade (h.nothing hout).1

theorem detail_injective : Function.Injective UserChange.detail := by
  intro x y h
  cases x with
  | enabled a => cases y with
    | enabled b => simpa [UserChange.detail] using h
    | cabinetStatus s => simp [UserChange.detail] at h
  | cabinetStatus s => cases y with
    | enabled b => simp [UserChange.detail] at h
    | cabinetStatus s' => cases s <;> cases s' <;> simp_all [UserChange.detail, CabinetStatus.value]

namespace UserDesk

/-- The first switch: it is left alone, refused, or flipped. -/
theorem patchEnabled_cases (desk : UserDesk W) (email account : String)
    (hraise : RaisesBare up userId) (enabled : JsonField) :
    (enabled = .null ∧ desk.patchEnabled up email account userId enabled = (.ok [], desk)) ∨
    (enabled ≠ .null ∧ ¬ Accepts up userId desk.cloud enabled.truth ∧ ∃ err desk',
      desk.patchEnabled up email account userId enabled = (.error err, desk') ∧
        desk'.made = desk.made ∧ desk'.cloud = desk.cloud ∧ desk'.users = desk.users) ∨
    (enabled ≠ .null ∧ Accepts up userId desk.cloud enabled.truth ∧ ∃ cloud,
      desk.patchEnabled up email account userId enabled = (.ok [.enabled enabled.truth],
        { desk with cloud := cloud, made := desk.made ++ [.enabled enabled.truth] })) := by
  by_cases hnull : enabled = .null
  · exact .inl ⟨hnull, if_pos hnull⟩
  refine .inr ?_
  unfold patchEnabled switchEnabled
  rw [if_neg hnull]
  cases htoken : up.serviceToken with
  | error err =>
    refine .inl ⟨hnull, ?_, _, _, rfl, rfl, rfl, rfl⟩
    rintro ⟨token, -, -, h, -⟩
    simp [htoken] at h
  | ok token =>
    dsimp only
    cases hput : updateUser up.toWriteApi token userId
      ⟨none, none, some enabled.truth, none, none⟩ desk.cloud with
    | mk answer cloud =>
      cases answer with
      | error err =>
        have hcloud : cloud = desk.cloud := hraise _ _ _ _ _ hput
        refine .inl ⟨hnull, ?_, _, _, rfl, rfl, hcloud, rfl⟩
        rintro ⟨token', b, cloud', h, hok⟩
        cases htoken.symm.trans h
        cases hput.symm.trans hok
      | ok b => exact .inr ⟨hnull, ⟨token, b, cloud, htoken, hput⟩, cloud, rfl⟩

@[simp] theorem forget_made (domainId : Option String) :
    (desk.forget domainId).made = desk.made := by
  unfold forget
  cases keep domainId <;> rfl

@[simp] theorem forget_cloud (domainId : Option String) :
    (desk.forget domainId).cloud = desk.cloud := by
  unfold forget
  cases keep domainId <;> rfl

@[simp] theorem forget_users (domainId : Option String) :
    (desk.forget domainId).users = desk.users := by
  unfold forget
  cases keep domainId <;> rfl

@[simp] theorem forget_journal (domainId : Option String) :
    (desk.forget domainId).journal = desk.journal := by
  unfold forget
  cases keep domainId <;> rfl

theorem get_forget_eq_none {domainId : Option String} :
    (desk.forget domainId).lists.get now (accountUsersKey accountId) = none ↔
      keep domainId = some accountId ∨ desk.lists.get now (accountUsersKey accountId) = none := by
  unfold forget
  cases keep domainId with
  | none => simp
  | some found =>
    have hkey : accountUsersKey found = accountUsersKey accountId ↔ found = accountId :=
      String.append_right_inj _
    rw [Cache.get_delete_eq_none, hkey, Option.some_inj]

/-- The end of the view is right about the changes that took effect if it names them and drops the
list. -/
theorem allOrNothing_patchDone {changed made : List UserChange}
    (hmade : desk'.made = desk.made ++ made) (hjournal : desk'.journal = desk.journal)
    (hlists : desk'.lists = desk.lists) (hne : made ≠ []) :
    AllOrNothing accountId userId now desk (desk'.patchDone c up email account userId changed).2
        (desk'.patchDone c up email account userId changed).1 ↔
      changed = made ∧ Drops c up accountId now desk account := by
  have hchanged : desk.made ++ made ≠ desk.made := by simpa using hne
  unfold patchDone Drops
  cases hresolve : up.resolveDomainId c account with
  | error err =>
    -- by now the changes have been made
    refine iff_of_false (not_allOrNothing_of_error (by rwa [hmade]) rfl) ?_
    rintro ⟨-, domainId, hok, -⟩
    cases hok
  | ok domainId =>
    have hlist : (desk'.forget domainId).lists.get now (accountUsersKey accountId) = none ↔
        keep domainId = some accountId ∨ desk.lists.get now (accountUsersKey accountId) = none := by
      rw [get_forget_eq_none, hlists]
    have hrows : ((desk'.forget domainId).record email account userId .success ""
        (changed.map UserChange.detail)).journal.drop desk.journal.length =
          [⟨orElse email "anonymous", "user.update", account, "user", userId, "", .success, "",
            changed.map UserChange.detail⟩] := by
      rw [record, forget_journal, hjournal, List.drop_left]
    have hmoved : ((desk'.forget domainId).record email account userId .success ""
        (changed.map UserChange.detail)).made = desk.made ++ made := by
      rw [record, forget_made, hmade]
    constructor
    · intro h
      obtain ⟨row, hrow, -, -, -, hdetail⟩ := h.logged (hmoved ▸ hchanged)
      cases List.mem_singleton.1 (hrows ▸ hrow)
      rw [hmoved, List.drop_left] at hdetail
      exact ⟨List.map_injective_iff.2 detail_injective hdetail, domainId, rfl,
        hlist.1 (h.dropped (hmoved ▸ hchanged))⟩
    · rintro ⟨rfl, domainId', hfound, hdrops⟩
      cases hfound
      constructor
      case nothing =>
        intro h
        cases h
      case logged =>
        refine fun _ => ⟨_, hrows ▸ List.mem_singleton_self _, rfl, rfl, rfl, ?_⟩
        rw [hmoved, List.drop_left]
      case dropped => exact fun _ => hlist.2 hdrops

theorem patchDone_unchanged {changed : List UserChange} :
    (desk.patchDone c up email account userId changed).2.made = desk.made ∧
      (desk.patchDone c up email account userId changed).2.cloud = desk.cloud ∧
      (desk.patchDone c up email account userId changed).2.users = desk.users := by
  unfold patchDone
  cases up.resolveDomainId c account with
  | error err => exact ⟨rfl, rfl, rfl⟩
  | ok domainId => exact ⟨forget_made _, forget_cloud _, forget_users _⟩

/-- The second switch: it is left alone, refused, flipped, or has no row to reach. -/
theorem patchStatus_cases (desk : UserDesk W) (c : Casing) (account userId : String)
    (cabinetStatus : JsonField) :
    (cabinetStatus = .null ∧ desk.patchStatus c account userId cabinetStatus = (.ok [], desk)) ∨
    (cabinetStatus ≠ .null ∧ ¬ Reaches c userId desk account cabinetStatus ∧ ∃ err,
      desk.patchStatus c account userId cabinetStatus = (.error err, desk)) ∨
    (Reaches c userId desk account cabinetStatus ∧ ∃ status users,
      desk.patchStatus c account userId cabinetStatus = (.ok [.cabinetStatus status],
        { desk with users := users, made := desk.made ++ [.cabinetStatus status] })) ∨
    (cabinetStatus ≠ .null ∧ ¬ Reaches c userId desk account cabinetStatus ∧ ∃ status,
      desk.patchStatus c account userId cabinetStatus = (.ok [.cabinetStatus status], desk)) := by
  by_cases hnull : cabinetStatus = .null
  · exact .inl ⟨hnull, if_pos hnull⟩
  refine .inr ?_
  unfold patchStatus
  rw [if_neg hnull]
  cases hstatus : cabinetStatus.status with
  | error err =>
    refine .inl ⟨hnull, ?_, err, rfl⟩
    rintro ⟨status, hok, -⟩
    cases hstatus.symm.trans hok
  | ok status =>
    dsimp only
    by_cases hrow : desk.HasRow c account userId
    · refine .inr (.inl ⟨⟨status, hstatus, hrow⟩, status,
        (desk.switchStatus c account userId status).users, ?_⟩)
      unfold switchStatus
      rw [if_pos hrow]
    · have hsame : desk.switchStatus c account userId status = desk := by
        have husers : (desk.users.map fun u =>
            if IsRow c account userId u then { u with status := status } else u) = desk.users := by
          refine (List.map_congr_left fun u hu => ?_).trans (List.map_id _)
          exact if_neg fun h => hrow ⟨u, hu, h⟩
        unfold switchStatus
        rw [if_neg hrow, husers]
      exact .inr (.inr ⟨hnull, fun ⟨_, _, h⟩ => hrow h, status, by rw [hsame]⟩)

theorem not_reaches_null : ¬ Reaches c userId desk account .null := by
  rintro ⟨status, hstatus, -⟩
  cases hstatus

/-- From the second switch on, the changes `made` being those that took effect. -/
theorem allOrNothing_patchRest {made : List UserChange} {cabinetStatus : JsonField}
    (hmade : desk'.made = desk.made ++ made) (hcloud : made = [] → desk'.cloud = desk.cloud)
    (husers : desk'.users = desk.users) (hjournal : desk'.journal = desk.journal)
    (hlists : desk'.lists = desk.lists) :
    AllOrNothing accountId userId now desk
      (desk'.patchRest c up email account userId made cabinetStatus).2
        (desk'.patchRest c up email account userId made cabinetStatus).1 ↔
      (made ≠ [] ∨ Reaches c userId desk account cabinetStatus →
        (cabinetStatus = .null ∨ Reaches c userId desk account cabinetStatus) ∧
          Drops c up accountId now desk account) := by
  have hreaches : Reaches c userId desk' account cabinetStatus ↔
    Reaches c userId desk account cabinetStatus := by
    unfold Reaches HasRow
    rw [husers]
  have hnil : made = [] → desk'.made = desk.made := by
    rintro rfl
    rw [hmade, List.append_nil]
  rw [← hreaches]
  unfold patchRest
  rcases desk'.patchStatus_cases c account userId cabinetStatus with
    ⟨hnull, heq⟩ | ⟨hnull, hmiss, err, heq⟩ | ⟨hhit, status, users, heq⟩ |
      ⟨hnull, hmiss, status, heq⟩ <;>
    rw [heq]
  · -- the second switch is left alone
    have hmiss : ¬ Reaches c userId desk' account cabinetStatus := hnull ▸ not_reaches_null
    by_cases hnone : made = []
    · obtain ⟨h1, h2, h3⟩ := @patchDone_unchanged W c up userId desk' email account (made ++ [])
      refine iff_of_true
        (allOrNothing_of_unchanged (h1.trans (hnil hnone)) (h2.trans (hcloud hnone))
        (h3.trans husers)) fun h => absurd h (not_or.2 ⟨not_not.2 hnone, hmiss⟩)
    · simp [allOrNothing_patchDone hmade hjournal hlists hnone, hnull, hnone]
  · -- it is refused
    by_cases hnone : made = []
    · exact iff_of_true (allOrNothing_of_unchanged (hnil hnone) (hcloud hnone) husers)
        fun h => absurd h (not_or.2 ⟨not_not.2 hnone, hmiss⟩)
    · refine iff_of_false (not_allOrNothing_of_error (by simpa [hmade] using hnone) rfl) fun h => ?_
      exact (h (.inl hnone)).1.elim hnull hmiss
  · -- it is flipped
    have hmade' : desk'.made ++ [.cabinetStatus status] = desk.made ++
      (made ++ [.cabinetStatus status]) := by
      rw [hmade, List.append_assoc]
    refine (@allOrNothing_patchDone W c up accountId userId now desk
      { desk' with users := users, made := desk'.made ++ [.cabinetStatus status] } email account _ _
        hmade' hjournal
      hlists (by simp)).trans ?_
    simp [hhit]
  · -- it has no row to reach
    by_cases hnone : made = []
    · obtain ⟨h1, h2, h3⟩ := @patchDone_unchanged W c up userId desk' email account
        (made ++ [.cabinetStatus status])
      refine iff_of_true
        (allOrNothing_of_unchanged (h1.trans (hnil hnone)) (h2.trans (hcloud hnone))
        (h3.trans husers)) fun h => absurd h (not_or.2 ⟨not_not.2 hnone, hmiss⟩)
    · simp [allOrNothing_patchDone hmade hjournal hlists hnone, hnull, hnone, hmiss]

end UserDesk

/-- **Changing a user is all, logged, or nothing**, of the requests that are settled. -/
theorem allOrNothing_iff (hraise : RaisesBare up userId) {data : Option SwitchData} :
    AllOrNothing accountId userId now desk (desk.userPatch c up email userId data).2
        (desk.userPatch c up email userId data).1 ↔
      ∀ data', data = some data' → SwitchSettled c up accountId userId now desk data' := by
  have hunchanged : ∀ out, AllOrNothing accountId userId now desk desk out :=
    fun out => allOrNothing_of_unchanged rfl rfl rfl
  cases data with
  | none => exact iff_of_true (hunchanged _) fun _ h => nomatch h
  | some data =>
    have hsettled :
      (∀ data', some data = some data' → SwitchSettled c up accountId userId now desk data') ↔
        SwitchSettled c up accountId userId now desk data := by simp
    rw [hsettled]
    unfold UserDesk.userPatch SwitchSettled
    dsimp only
    cases haccount : data.account.stripped with
    | none => exact iff_of_true (hunchanged _) fun _ h => nomatch h
    | some account =>
      simp only [Option.some.injEq, forall_eq']
      by_cases hblank : account = ""
      · simp only [if_pos hblank]
        exact iff_of_true (hunchanged _) fun h => absurd hblank h
      by_cases hnone : data.enabled = .null ∧ data.cabinetStatus = .null
      · simp only [if_neg hblank, if_pos hnone]
        rw [if_pos hnone.1, hnone.2]
        exact iff_of_true (hunchanged _) fun _ h => absurd h UserDesk.not_reaches_null
      simp only [if_neg hblank, if_neg hnone]
      rcases desk.patchEnabled_cases email account hraise data.enabled with ⟨hnull, heq⟩ |
        ⟨hnull, hrefused, err, desk', heq, hmade, hcloud, husers⟩ |
          ⟨hnull, haccepts, cloud, heq⟩ <;>
        simp only [heq]
      · -- the first switch is left alone
        rw [if_pos hnull]
        refine Iff.trans
          (UserDesk.allOrNothing_patchRest (List.append_nil _).symm (fun _ => rfl) rfl rfl rfl) ?_
        simp [hblank]
      · -- it is refused
        rw [if_neg hnull]
        exact iff_of_true (allOrNothing_of_unchanged hmade hcloud husers) fun _ h =>
          absurd h hrefused
      · -- it is flipped
        rw [if_neg hnull]
        refine Iff.trans
          (UserDesk.allOrNothing_patchRest rfl (fun h => absurd h (List.cons_ne_nil _ _))
          rfl rfl rfl) ?_
        simp [hblank, haccepts]

end

/-! ### One user -/

/-- A cloud of one account and one user, its state being whether the user is on. -/
def oneUser : Upstream Bool where
  vms := .ok []
  volumes := .ok []
  elasticIps := .ok []
  volumeSnapshots := .ok []
  serviceToken := .ok "service"
  directory := .ok [⟨"d1", "Acme"⟩]
  projects _ := .ok []
  apiUrl := "https://cloud"
  postAction _ _ _ := throw (upstreamError 503)
  postGuestReboot _ _ := throw (upstreamError 503)
  getVnc _ _ := throw (upstreamError 503)
  postRule _ _ := throw (upstreamError 503)
  deleteRule _ _ := throw (upstreamError 503)
  postUser _ _ := throw (upstreamError 503)
  putUser _ _ fields := ExceptT.mk fun isOn =>
    (.ok ⟨200, some ⟨some "u1", none⟩⟩, fields.enabled.getD isOn)
  deleteUser _ _ := throw (upstreamError 503)
  putRole _ _ _ _ := throw (upstreamError 503)
  vm _ _ := .error (upstreamError 503)
  securityGroups _ := .ok []
  rules _ := .ok []
  domainUsers _ := .ok [("u1", "ann")]

/-- The user is on, and in the console. -/
def annDesk : UserDesk Bool where
  cloud := true
  users := [⟨⟨⟨"Acme", "ann", "u1"⟩, none, "d1", .user⟩, .active⟩]
  lists := [⟨accountUsersKey "d1", [("u1", "ann")], seconds 60⟩]
  journal := []
  made := []

/-- What an operator's request about the user comes to. -/
def patchAnn (enabled cabinetStatus : JsonField) : Except PatchError PatchedUser × UserDesk Bool :=
  annDesk.userPatch .ascii oneUser "op@cloud" "u1" (some ⟨.text "Acme", enabled, cabinetStatus⟩)

theorem raisesBare_oneUser : RaisesBare oneUser "u1" := by
  intro token fields cloud err cloud' h
  cases h

/-- Both switches at once. -/
theorem allOrNothing_iff_ann :
    AllOrNothing "d1" "u1" 0 annDesk (patchAnn (.flag false) (.text "blocked")).2
        (patchAnn (.flag false) (.text "blocked")).1 ↔
      ∀ data, some ⟨.text "Acme", .flag false, .text "blocked"⟩ = some data →
        SwitchSettled .ascii oneUser "d1" "u1" 0 annDesk data :=
  allOrNothing_iff raisesBare_oneUser

/-- A status there is not: the user is off by then, the answer is an error and nothing is on
record. -/
theorem off_without_record :
    annDesk.cloud = true ∧ (patchAnn (.flag false) (.text "banned")).2.cloud = false ∧
      (patchAnn (.flag false) (.text "banned")).1.isOk = false ∧
      (patchAnn (.flag false) (.text "banned")).2.journal = [] ∧
      ¬ AllOrNothing "d1" "u1" 0 annDesk (patchAnn (.flag false) (.text "banned")).2
        (patchAnn (.flag false) (.text "banned")).1 :=
  ⟨rfl, rfl, rfl, rfl, not_allOrNothing_of_error (by decide +kernel) rfl⟩

end OpenCloud
