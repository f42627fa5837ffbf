import OpenCloud.AdminApi.UserViews
import OpenCloud.Billing.FailedWrites
import OpenCloud.System.Drafts

/-!
# The trail of the cabinet

Users of the cabinet act on machines, firewall rules and the users of their account, write price
lists and requisites and issue invoices.  The journal is to have a row of success for every change
and for nothing else.

A price list and requisites are written without a row, and issuing an issued month again adds a row
though it changes nothing.

## Main results

* `onRecord_serve_iff` : when a request is on record.
* `onRecord_of_run` : so for every request of a run.
-/

namespace OpenCloud

/-- What a user of the cabinet asks for. -/
inductive CabinetAsk where
  | vmAction (vmId : String) (data : VmActionData)
  | vmConsole (vmId : String) (name : Option String)
  | ruleCreate (groupId : String) (data : RuleData)
  | ruleDelete (ruleId : String)
  | userCreate (data : UserCreateData)
  | userUpdate (userId : String) (data : UserUpdateData)
  | userDelete (userId : String)
  | tariffPut (currency : String) (rates : SubmittedRates)
  | profilePut (submitted : SubmittedProfile)
  | invoicePost (today : Date) (now : Instant) (m : Month)

/-- A request of a user; `vaulted` is what the vault holds for the session. -/
structure CabinetRequest (W : Type) where
  user : CabinetUser
  vaulted : Option String
  up : Upstream W
  ask : CabinetAsk

/-- `update_or_create` saves the row of the list. -/
def PriceLists.saves (lists : PriceLists) (x : ListWrite) : Bool :=
  !(255 < x.account.length ∨ 120 < x.name.length ∨ 8 < x.currency.length) &&
    (lists.updateTariff false x.account x.name x.currency).isSome

namespace CabinetWorld

variable {W : Type}

/-- The tables of the price lists. -/
def lists (w : CabinetWorld W) : PriceLists := ⟨w.db.tariffs, w.db.tariffRates⟩

/-- `AdminTariffView.put`. -/
def tariffPut (w : CabinetWorld W) (c : Casing) (cloud : Cloud) (user : CabinetUser)
    (currency : String) (rates : SubmittedRates) : CabinetWorld W :=
  let put : PriceWrite := .adminPut cloud user currency rates
  { w with
    db := w.db.setPrices (writePriceLists c w.lists false put).2
    saves := w.saves + if (put.target c).any w.lists.saves then 1 else 0 }

/-- `AdminBillingProfileView.put`. -/
def profilePut (w : CabinetWorld W) (c : Casing) (s : Settings) (cloud : Cloud) (user : CabinetUser)
    (submitted : SubmittedProfile) : CabinetWorld W :=
  let (answer, db) := adminProfilePut c s w.db cloud user submitted
  { w with db := db, saves := w.saves + if answer.isOk then 1 else 0 }

/-- What a request leaves. -/
def serve (w : CabinetWorld W) (c : Casing) (s : Settings) (r : CabinetRequest W) :
    CabinetWorld W :=
  match r.ask with
  | .vmAction vmId data => (vmActionPost c r.up r.vaulted vmId r.user w data).2
  | .vmConsole vmId name => (vmConsolePost r.up r.vaulted vmId r.user w name).2
  | .ruleCreate groupId data => (ruleCreatePost c r.up r.vaulted r.user w groupId data).2
  | .ruleDelete ruleId => (OpenCloud.ruleDelete r.up r.vaulted r.user w ruleId).2
  | .userCreate data => (userCreatePost c r.up r.user r.vaulted w data).2
  | .userUpdate userId data => (userUpdatePatch c r.up r.user r.vaulted w userId data).2
  | .userDelete userId => (OpenCloud.userDelete c r.up r.user r.vaulted w userId).2
  | .tariffPut currency rates => w.tariffPut c r.up.toCloud r.user currency rates
  | .profilePut submitted => w.profilePut c s r.up.toCloud r.user submitted
  | .invoicePost today now m =>
    { w with db := (adminInvoicePost c s r.up.toCloud today now r.user m w.db).2 }

/-- The cloud is another one, or a table of the price lists, requisites or invoices is. -/
def Changed (w w' : CabinetWorld W) : Prop :=
  w'.cloud ≠ w.cloud ∨ w'.saves ≠ w.saves ∨ w'.db.tariffs ≠ w.db.tariffs ∨
    w'.db.tariffRates ≠ w.db.tariffRates ∨ w'.db.billingProfiles ≠ w.db.billingProfiles ∨
    w'.db.book.invoices ≠ w.db.book.invoices

instance [DecidableEq W] (w w' : CabinetWorld W) : Decidable (w.Changed w') :=
  inferInstanceAs (Decidable (_ ∨ _))

/-- What a request of the user left is on record. -/
structure OnRecord (user : CabinetUser) (w w' : CabinetWorld W) : Prop where
  recorded : w.Changed w' → ∃ row ∈ w.newRows w', row.outcome = .success ∧
    row.username = orElse user.username "anonymous" ∧ row.account = user.account
  nothingElse : ¬ w.Changed w' → ∀ row ∈ w.newRows w', row.outcome ≠ .success

end CabinetWorld

/-- The call changes the cloud exactly if it answers. -/
def Change.Clear {W β γ : Type} (change : Change W β γ) (cloud : W) : Prop :=
  (change.call cloud).2 ≠ cloud ↔ (change.call cloud).1.isOk = true

/-- The change the request is cleared to make, if any, changes the cloud exactly if the cloud
answers it. -/
def Clears {W β γ : Type} (ask : Except Refusal (Change W β γ)) (cloud : W) : Prop :=
  ∀ change, ask = .ok change → change.Clear cloud

/-- The request is on record: a change in the cloud if the cloud changes exactly when it answers, a
write of a price list or of requisites if it is refused before it saves a row, and issuing an
invoice if it is refused or the month has no invoice yet. -/
def Traced {W : Type} (c : Casing) (s : Settings) (w : CabinetWorld W) (r : CabinetRequest W) :
    Prop :=
  match r.ask with
  | .vmAction vmId data => Clears (vmActionAsk c r.up r.vaulted vmId data) w.cloud
  | .vmConsole vmId name => Clears (vmConsoleAsk r.up r.vaulted vmId name) w.cloud
  | .ruleCreate groupId data => Clears (ruleCreateAsk c r.up r.vaulted groupId data) w.cloud
  | .ruleDelete ruleId => Clears (ruleDeleteAsk r.up r.vaulted ruleId) w.cloud
  | .userCreate data => Clears (userCreateAsk c r.up r.user r.vaulted data) w.cloud
  | .userUpdate userId data => Clears (userUpdateAsk c r.up r.user r.vaulted userId data) w.cloud
  | .userDelete userId => Clears (userDeleteAsk c r.up r.user r.vaulted userId) w.cloud
  | .tariffPut currency rates =>
    ∀ x, (PriceWrite.adminPut r.up.toCloud r.user currency rates).target c = some x →
    HeaderRefused w.lists x.account x.name x.currency
  | .profilePut submitted => ∀ account domainId, accountDomain c r.up.toCloud r.user =
    .ok (account, domainId) →
    ¬ (submitted.change ((w.db.billingProfiles.find? fun p => p.account = account).getD
      ⟨account, "", "", "", "", "", "", ""⟩)).Fits
  | .invoicePost today _ m => ∀ account domainId, accountDomain c r.up.toCloud r.user =
    .ok (account, domainId) →
    ¬ today < m.first → refusal (draft c s w.db account domainId m) = none →
      findInvoice c w.db.book.invoices account m.label = none

/-- The requests of the cabinet, one after the other. -/
def cabinetTrail (W : Type) (c : Casing) (s : Settings) :
    System (CabinetWorld W) (CabinetRequest W) :=
  System.ofExec fun w r => some (w.serve c s r)

section

variable {W β γ : Type} {c : Casing} {s : Settings} {w w' : CabinetWorld W} {user : CabinetUser}
  {ask : Except Refusal (Change W β γ)}

/-! ### What is on record -/

namespace CabinetWorld

theorem onRecord_of_noSuccess (h : ∀ row ∈ w.newRows w', row.outcome ≠ .success) :
    OnRecord user w w' ↔ ¬ w.Changed w' := by
  constructor
  · intro hrecord hchanged
    obtain ⟨row, hrow, hsuccess, -⟩ := hrecord.recorded hchanged
    exact h row hrow hsuccess
  · exact fun hchanged => ⟨fun h' => absurd h' hchanged, fun _ => h⟩

theorem onRecord_of_success {row : AuditLog} (hrow : row ∈ w.newRows w')
    (hsuccess : row.outcome = .success)
    (husername : row.username = orElse user.username "anonymous")
    (haccount : row.account = user.account) :
    OnRecord user w w' ↔ w.Changed w' := by
  constructor
  · intro hrecord
    by_contra hchanged
    exact hrecord.nothingElse hchanged row hrow hsuccess
  · exact fun hchanged =>
      ⟨fun _ => ⟨row, hrow, hsuccess, husername, haccount⟩, fun h' => absurd hchanged h'⟩

theorem newRows_of_append {rows : List AuditLog} (h : w'.db.auditLog = w.db.auditLog ++ rows) :
    w.newRows w' = rows := by
  rw [newRows, h, List.drop_left]

theorem changed_cloud {cloud : W} {auditLog : List AuditLog} :
    w.Changed { w with cloud := cloud, db := { w.db with auditLog := auditLog } } ↔
      cloud ≠ w.cloud := by
  simp [Changed]

end CabinetWorld

open CabinetWorld

/-! ### Changes in the cloud -/

/-- A change in the cloud is on record exactly if the cloud changes when it answers, and only
then. -/
theorem onRecord_attempt : OnRecord user w (attempt user ask w).2 ↔ Clears ask w.cloud := by
  cases ask with
  | error err =>
    have hnone : w.newRows w = [] := newRows_of_append (List.append_nil _).symm
    rw [attempt, onRecord_of_noSuccess (by simp [hnone])]
    exact iff_of_true (by simp [Changed]) fun _ h => nomatch h
  | ok change =>
    have hclears : Clears (.ok change) w.cloud ↔ change.Clear w.cloud :=
      ⟨fun h => h change rfl, fun h _ he => Except.ok.inj he ▸ h⟩
    rw [attempt, hclears, Change.Clear]
    cases hcall : change.call w.cloud with
    | mk out cloud =>
      cases out with
      | error err =>
        -- the call raised: a row of failure, so the cloud must be as it was
        have hrows : w.newRows (change.make user w).2 =
          [change.failed.row user .failure err.code] := by
          rw [make_of_error hcall]
          exact newRows_of_append rfl
        rw [onRecord_of_noSuccess (by simp [hrows, Entry.row]), make_of_error hcall, changed_cloud]
        simp [Except.isOk, Except.toBool]
      | ok b =>
        -- it answered: the row of success comes last, after a failure of a part of the change
        obtain ⟨aside, hmake⟩ := @make_of_ok W β γ user change w cloud b hcall
        have hrows : w.newRows (change.make user w).2 = aside ++
          [(change.done b).row user .success ""] := by
          rw [hmake]
          exact newRows_of_append (List.append_assoc _ _ _)
        have hdone : (change.done b).row user .success "" ∈ w.newRows (change.make user w).2 := by
          rw [hrows]
          exact List.mem_append_right _ (List.mem_singleton_self _)
        rw [onRecord_of_success hdone rfl rfl rfl, hmake, changed_cloud]
        simp [Except.isOk, Except.toBool]

theorem onRecord_userDelete {up : Upstream W} {vaulted : Option String} {userId : String} :
    OnRecord user w (OpenCloud.userDelete c up user vaulted w userId).2 ↔
      Clears (userDeleteAsk c up user vaulted userId) w.cloud := by
  rw [← @onRecord_attempt W _ _ w user]
  unfold OpenCloud.userDelete
  cases attempt user (userDeleteAsk c up user vaulted userId) w with
  | mk out w' =>
    cases out with
    | error err => exact Iff.rfl
    | ok reply => exact ⟨fun h => ⟨h.recorded, h.nothingElse⟩, fun h => ⟨h.recorded, h.nothingElse⟩⟩

/-! ### Writes of the tables -/

theorem onRecord_of_noRows (h : w'.db.auditLog = w.db.auditLog) : OnRecord user w w' ↔
    ¬ w.Changed w' := by
  have hnone : w.newRows w' = [] := newRows_of_append (by rw [h, List.append_nil])
  exact onRecord_of_noSuccess (by simp [hnone])

theorem saves_iff {lists : PriceLists} {x : ListWrite} :
    lists.saves x = true ↔ ¬ HeaderRefused lists x.account x.name x.currency := by
  rw [PriceLists.saves, HeaderRefused, not_or, Bool.and_eq_true, Bool.not_eq_true',
    decide_eq_false_iff_not,
    ← @updateTariff_eq_none_iff lists x.account x.name x.currency, Option.isSome_iff_ne_none]

variable {cloud : Cloud}

theorem tariffPut_eq_self {currency : String} {rates : SubmittedRates}
    (hlists : (writePriceLists c w.lists false (.adminPut cloud user currency rates)).2 = w.lists)
    (hsaves : ((PriceWrite.adminPut cloud user currency rates).target c).any w.lists.saves =
      false) :
    w.tariffPut c cloud user currency rates = w := by
  rw [tariffPut, hlists, hsaves]
  rfl

/-- A write of a price list is on record exactly if it is refused before it saves the row of the
list. -/
theorem onRecord_tariffPut {currency : String} {rates : SubmittedRates} :
    OnRecord user w (w.tariffPut c cloud user currency rates) ↔
      ∀ x, (PriceWrite.adminPut cloud user currency rates).target c = some x →
        HeaderRefused w.lists x.account x.name x.currency := by
  have haudit : (w.tariffPut c cloud user currency rates).db.auditLog = w.db.auditLog := by
    rw [tariffPut, Db.setPrices]
  rw [onRecord_of_noRows haudit]
  cases htarget : (PriceWrite.adminPut cloud user currency rates).target c with
  | none =>
    have hput : (PriceWrite.adminPut cloud user currency rates).IsPut := trivial
    have hlists : (writePriceLists c w.lists false (.adminPut cloud user currency rates)).2 =
      w.lists :=
      (put_of_target_none hput htarget).2
    rw [tariffPut_eq_self hlists (by rw [htarget]; rfl)]
    exact iff_of_true (by simp [Changed]) (by simp)
  | some x =>
    by_cases hrefused : HeaderRefused w.lists x.account x.name x.currency
    · have hlists : (writePriceLists c w.lists false (.adminPut cloud user currency rates)).2 =
        w.lists := by
        rw [writePriceLists_of_target htarget]
        exact (write_of_headerRefused hrefused).2
      have hsaves : w.lists.saves x = false := by
        rw [← Bool.not_eq_true, saves_iff]
        exact not_not_intro hrefused
      rw [tariffPut_eq_self hlists (by rw [htarget]; exact hsaves)]
      exact iff_of_true (by simp [Changed]) (by simpa using hrefused)
    · -- the row of the list is saved, whatever becomes of its prices
      have hsaves : w.lists.saves x = true := saves_iff.2 hrefused
      exact iff_of_false (by simp [Changed, tariffPut, htarget, hsaves]) (by simpa using hrefused)

/-- A write of requisites is on record exactly if it is refused. -/
theorem onRecord_profilePut {submitted : SubmittedProfile} :
    OnRecord user w (w.profilePut c s cloud user submitted) ↔
      ∀ account domainId, accountDomain c cloud user = .ok (account, domainId) →
        ¬ (submitted.change ((w.db.billingProfiles.find? fun p => p.account = account).getD
          ⟨account, "", "", "", "", "", "", ""⟩)).Fits := by
  have haudit : (w.profilePut c s cloud user submitted).db.auditLog = w.db.auditLog := by
    obtain ⟨profiles, hprofiles⟩ := adminProfilePut_frame c s w.db cloud user submitted
    rw [profilePut]
    generalize adminProfilePut c s w.db cloud user submitted = out at hprofiles ⊢
    obtain ⟨answer, db⟩ := out
    obtain rfl : db = { w.db with billingProfiles := profiles } := hprofiles
    rfl
  rw [onRecord_of_noRows haudit]
  unfold profilePut adminProfilePut updateProfile
  cases hscope : accountDomain c cloud user with
  | error err => exact iff_of_true (by simp [Changed, Except.isOk, Except.toBool]) fun _ _ h =>
    nomatch h
  | ok scope =>
    have hcond :
      (∀ account domainId, Except.ok scope = (.ok (account, domainId) : Except AppError _) →
        ¬ (submitted.change ((w.db.billingProfiles.find? fun p => p.account = account).getD
          ⟨account, "", "", "", "", "", "", ""⟩)).Fits) ↔
        ¬ (submitted.change ((w.db.billingProfiles.find? fun p => p.account = scope.1).getD
          ⟨scope.1, "", "", "", "", "", "", ""⟩)).Fits :=
      ⟨fun h => h scope.1 scope.2 rfl, fun h _ _ heq => by cases heq; exact h⟩
    rw [hcond]
    dsimp only
    by_cases hfits :
      (submitted.change ((w.db.billingProfiles.find? fun p => p.account = scope.1).getD
        ⟨scope.1, "", "", "", "", "", "", ""⟩)).Fits
    · rw [if_pos hfits]
      exact iff_of_false (by simp [Changed, Except.isOk, Except.toBool]) (not_not_intro hfits)
    · rw [if_neg hfits]
      exact iff_of_true (by simp [Changed, Except.isOk, Except.toBool]) hfits

/-- Issuing an invoice is on record exactly if it is refused or the month has no invoice yet. -/
theorem onRecord_invoicePost {today : Date} {now : Instant} {m : Month} :
    OnRecord user w { w with db := (adminInvoicePost c s cloud today now user m w.db).2 } ↔
      ∀ account domainId, accountDomain c cloud user = .ok (account, domainId) → ¬ today < m.first →
        refusal (draft c s w.db account domainId m) = none →
          findInvoice c w.db.book.invoices account m.label = none := by
  have hself : OnRecord user w { w with db := w.db } :=
    (onRecord_of_noRows rfl).2 (by simp [Changed])
  unfold adminInvoicePost
  cases hscope : accountDomain c cloud user with
  | error err => exact iff_of_true hself fun _ _ h => nomatch h
  | ok scope =>
    obtain ⟨account, domainId⟩ := scope
    dsimp only
    by_cases hstarted : today < m.first
    · rw [if_pos hstarted]
      refine iff_of_true hself fun _ _ _ hfirst => absurd hstarted hfirst
    · rw [if_neg hstarted]
      cases hrefusal : refusal (draft c s w.db account domainId m) with
      | some err =>
        refine iff_of_true hself fun _ _ heq _ hnone => ?_
        cases heq
        rw [hrefusal] at hnone
        cases hnone
      | none =>
        dsimp only
        -- what is left of the condition is that the month has no invoice
        have hcond : (∀ account' domainId', Except.ok (account, domainId) =
            (.ok (account', domainId') : Except AppError _) → ¬ today < m.first →
              refusal (draft c s w.db account' domainId' m) = none →
                findInvoice c w.db.book.invoices account' m.label = none) ↔
            findInvoice c w.db.book.invoices account m.label = none :=
          ⟨fun h => h account domainId rfl hstarted hrefusal,
            fun h _ _ heq _ _ => by cases heq; exact h⟩
        rw [hcond]
        cases hissue : issue c s w.db now account domainId m (issuer user) with
        | error err =>
          refine iff_of_true hself (Option.eq_none_iff_forall_ne_some.2 fun inv hfound => ?_)
          rw [issue, hfound] at hissue
          cases hissue
        | ok out =>
          obtain ⟨issued, book⟩ := out
          dsimp only
          rw [onRecord_of_success (by rw [newRows_of_append rfl]; exact List.mem_singleton_self _)
            rfl rfl rfl]
          rcases issue_cases hissue with
            ⟨inv, hfound, -, rfl⟩ | ⟨hnone, inv, row, rows, -, -, -, -, hinvoices, -⟩
          · -- the invoice was there
            exact iff_of_false (by simp [Changed, Db.setBook, Db.audit]) (by simp [hfound])
          · -- it is added
            refine iff_of_true ?_ hnone
            simp [Changed, Db.setBook, Db.audit, hinvoices]

/-! ### Runs -/

/-- A request is on record exactly under its condition. -/
theorem onRecord_serve_iff {r : CabinetRequest W} : OnRecord r.user w (w.serve c s r) ↔
    Traced c s w r := by
  obtain ⟨user, vaulted, up, ask⟩ := r
  cases ask with
  | vmAction vmId data => exact onRecord_attempt
  | vmConsole vmId name => exact onRecord_attempt
  | ruleCreate groupId data => exact onRecord_attempt
  | ruleDelete ruleId => exact onRecord_attempt
  | userCreate data => exact onRecord_attempt
  | userUpdate userId data => exact onRecord_attempt
  | userDelete userId => exact onRecord_userDelete
  | tariffPut currency rates => exact onRecord_tariffPut
  | profilePut submitted =>
    rw [CabinetWorld.serve, Traced]
    exact onRecord_profilePut
  | invoicePost today now m => exact onRecord_invoicePost

end

/-- **Every request of a run is on record exactly if every one meets its condition.** -/
theorem onRecord_of_run {W : Type} {c : Casing} {s : Settings} {w₀ w : CabinetWorld W}
    {requests : List (CabinetRequest W)} :
    (cabinetTrail W c s).Run (fun _ w r => CabinetWorld.OnRecord r.user w (w.serve c s r)) w₀
      requests w ↔
      (cabinetTrail W c s).Run (fun _ w r => Traced c s w r) w₀ requests w := by
  constructor
  · exact fun hrun => hrun.mono fun _ _ _ => onRecord_serve_iff.1
  · exact fun hrun => hrun.mono fun _ _ _ => onRecord_serve_iff.2

/-! ### What is not on record -/

/-- A cloud that knows one account and refuses every write. -/
def readOnly : Upstream Unit where
  vms := .ok []
  volumes := .ok []
  elasticIps := .ok []
  volumeSnapshots := .ok []
  serviceToken := .ok "service"
  directory := .ok [⟨"d1", "Acme"⟩]
  projects _ := .ok []
  apiUrl := "https://cloud"
  postAction _ _ _ := throw (upstreamError 503)
  postGuestReboot _ _ := throw (upstreamError 503)
  getVnc _ _ := throw (upstreamError 503)
  postRule _ _ := throw (upstreamError 503)
  deleteRule _ _ := throw (upstreamError 503)
  postUser _ _ := throw (upstreamError 503)
  putUser _ _ _ := throw (upstreamError 503)
  deleteUser _ _ := throw (upstreamError 503)
  putRole _ _ _ _ := throw (upstreamError 503)
  vm _ _ := .error (upstreamError 503)
  securityGroups _ := .ok []
  rules _ := .ok []
  domainUsers _ := .ok []

/-- A request of the administrator of the account. -/
def acmeRequest (ask : CabinetAsk) : CabinetRequest Unit :=
  ⟨⟨"Acme", "ann", "u1"⟩, some "token", readOnly, ask⟩

/-- An account that can be invoiced for August. -/
def acmeWorld : CabinetWorld Unit := ⟨(), .empty, pricedDb "Acme" (measuredRow "Acme" "d1" "p1"), 0⟩

/-- Issue August, on its first day. -/
def issueAugust : CabinetRequest Unit := acmeRequest (.invoicePost august.first 0 august)

/-- Write a price list. -/
def putPrices : CabinetRequest Unit :=
  acmeRequest (.tariffPut "UZS" (some [("vcpu", some (.number 46000))]))

/-- Issuing August again adds a row of success and changes nothing; the price list is changed
without a row. -/
theorem unrecorded :
    ∃ w w' w'', (cabinetTrail Unit .ascii plainSettings).Run System.Free acmeWorld [issueAugust] w ∧
      (cabinetTrail Unit .ascii plainSettings).step w issueAugust w' ∧
      (cabinetTrail Unit .ascii plainSettings).step w' putPrices w'' ∧
      (¬ w.Changed w' ∧ ∃ row ∈ w.newRows w', row.outcome = .success) ∧
      (w'.Changed w'' ∧ w'.newRows w'' = []) := by
  refine ⟨_, _, _, System.Run.nil.snoc trivial rfl, rfl, rfl, ⟨?_, ?_⟩, ?_, ?_⟩
  · decide +kernel
  · decide +kernel
  · decide +kernel
  · decide +kernel

end OpenCloud
