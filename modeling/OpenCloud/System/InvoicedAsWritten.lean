import OpenCloud.Lib.Runs
import OpenCloud.Billing.Collector
import OpenCloud.Platform.Requisites

/-!
# The requisites last written

A write of requisites goes to the row of the exact name of the account; a document takes its buyer
from the first row whose account is the name ignoring case.  Until the first measurement the panel
writes under the name as it was typed, afterwards under the one that was measured, and the cabinet
under the one of the session.  So the requisites just written are the ones invoiced unless a row of
another spelling was there first.

## Main results

* `invoicedAsWritten_iff` : the buyer is what was written exactly if no row of another spelling
  stands before it.
* `invoiced_as_written_iff` : the same, over runs.
-/

namespace OpenCloud

/-- The buyer of a row. -/
def BillingProfile.buyer (p : BillingProfile) (account : String) : Buyer :=
  ⟨account, orElse p.legalName account, p.taxId, p.address, p.contract, p.director, p.email,
    p.phone⟩

/-- The row before anything is written. -/
def blankProfile (account : String) : BillingProfile := ⟨account, "", "", "", "", "", "", ""⟩

/-- The requisites of an account that are in effect. -/
def effectiveProfile (c : Casing) (profiles : List BillingProfile) (account : String) :
    BillingProfile :=
  (profiles.find? fun p => c.iexact p.account account).getD (blankProfile account)

/-- What happens to the requisites, and to the names of the accounts. -/
inductive RequisitesEvent where
  /-- `AdminBillingProfileView.put`. -/
  | adminProfile (cloud : Cloud) (user : CabinetUser) (submitted : SubmittedProfile)
  /-- `AccountProfileView.put`. -/
  | accountProfile (email name : String) (submitted : SubmittedProfile)
  /-- The daily measurement. -/
  | capture (cloud : Cloud) (now : Instant) (takenOn : Date)

/-- The row with the texts that are asked for. -/
def BillingProfile.updated (p : BillingProfile) (asked : SubmittedProfile) : BillingProfile where
  account := p.account
  legalName := asked.legalName.getD p.legalName
  taxId := asked.taxId.getD p.taxId
  address := asked.address.getD p.address
  contract := asked.contract.getD p.contract
  director := asked.director.getD p.director
  email := asked.email.getD p.email
  phone := asked.phone.getD p.phone

/-- A write, by the account, the texts that it is to leave there and what it makes of a row. -/
structure ProfileWrite where
  account : String
  asked : SubmittedProfile
  change : BillingProfile → BillingProfile
  change_eq : ∀ p, p.account = account → change p = p.updated asked

/-- The text without the blanks around it, and no longer than this. -/
def shortened (width : ℕ) (text : String) : String :=
  String.ofList ((strip text).toList.take width)

namespace RequisitesEvent

variable (c : Casing) (s : Settings) (db : Db)

/-- The texts an event is to leave: in the cabinet those of the fields that are named, in the panel
all seven. -/
def asked : RequisitesEvent → SubmittedProfile
  | adminProfile _ _ submitted => {
      legalName := submitted.legalName.map (shortened 500)
      taxId := submitted.taxId.map (shortened 500)
      address := submitted.address.map (shortened 500)
      contract := submitted.contract.map (shortened 500)
      director := submitted.director.map (shortened 500)
      email := submitted.email.map (shortened 500)
      phone := submitted.phone.map (shortened 500) }
  | accountProfile _ _ submitted => {
      legalName := some (shortened 255 (submitted.legalName.getD ""))
      taxId := some (shortened 32 (submitted.taxId.getD ""))
      address := some (shortened 500 (submitted.address.getD ""))
      contract := some (shortened 120 (submitted.contract.getD ""))
      director := some (shortened 255 (submitted.director.getD ""))
      email := some (shortened 254 (submitted.email.getD ""))
      phone := some (shortened 64 (submitted.phone.getD "")) }
  | capture _ _ _ => ⟨none, none, none, none, none, none, none⟩

/-- The write an event asks for. -/
def target (e : RequisitesEvent) : Option ProfileWrite :=
  match e with
  | adminProfile cloud user submitted =>
    (accountDomain c cloud user).toOption.map fun scope =>
      ⟨scope.1, (adminProfile cloud user submitted).asked, submitted.change, fun _ _ => rfl⟩
  | accountProfile email name submitted =>
    (resolveAccount c db.usageSnapshots name).toOption.map fun scope =>
      ⟨scope.1, (accountProfile email name submitted).asked, fun _ => submitted.row scope.1,
        fun p h => by rw [← h]; rfl⟩
  | capture _ _ _ => none

/-- Whether the event succeeds, and the tables after it. -/
def serve : RequisitesEvent → Bool × Db
  | adminProfile cloud user submitted =>
    let out := adminProfilePut c s db cloud user submitted
    (out.1.isOk, out.2)
  | accountProfile email name submitted =>
    let out := accountProfilePut c db email name submitted
    (out.1.isOk, out.2)
  | capture cloud now takenOn =>
    match OpenCloud.capture c cloud now takenOn db.usageSnapshots with
    | .error _ => (false, db)
    | .ok (table, _) => (true, { db with usageSnapshots := table })

end RequisitesEvent

/-- The requisites over time. -/
def requisites (c : Casing) (s : Settings) : System Db RequisitesEvent :=
  System.ofExec fun db e => some (e.serve c s db).2

/-- A buyer carries each text that is asked for, and the earlier one where none is; the account's
name stands for a blank legal name. -/
structure SubmittedProfile.Carried (asked : SubmittedProfile) (before after : Buyer) : Prop where
  account : after.account = before.account
  name : after.name = match asked.legalName with
    | some text => if text = "" then before.account else text
    | none => before.name
  taxId : after.taxId = asked.taxId.getD before.taxId
  address : after.address = asked.address.getD before.address
  contract : after.contract = asked.contract.getD before.contract
  director : after.director = asked.director.getD before.director
  email : after.email = asked.email.getD before.email
  phone : after.phone = asked.phone.getD before.phone

/-- The account's buyer, by whatever spelling, carries what was asked for, and the buyers of other
accounts are as before. -/
structure ProfileWrite.Invoiced (c : Casing) (profiles profiles' : List BillingProfile)
    (w : ProfileWrite) : Prop where
  own : ∀ name, c.iexact w.account name →
    w.asked.Carried (buyer c profiles name) (buyer c profiles' name)
  others : ∀ name, ¬ c.iexact w.account name → buyer c profiles' name = buyer c profiles name

/-- A write that succeeds is invoiced. -/
def InvoicedAsWritten (c : Casing) (s : Settings) (db : Db) (e : RequisitesEvent) : Prop :=
  ∀ w, e.target c db = some w → (e.serve c s db).1 = true →
    w.Invoiced c db.billingProfiles (e.serve c s db).2.billingProfiles

/-- The row the write goes to. -/
def ProfileWrite.before (w : ProfileWrite) (profiles : List BillingProfile) : BillingProfile :=
  (profiles.find? fun p => p.account = w.account).getD (blankProfile w.account)

/-- Of a write that fits its columns: the first row of the account, in any spelling, is of the very
name that is written, or has the texts that are asked for already. -/
def RequisitesInSight (c : Casing) (db : Db) (e : RequisitesEvent) : Prop :=
  ∀ w, e.target c db = some w → (w.change (w.before db.billingProfiles)).Fits →
    ∀ p, (db.billingProfiles.find? fun p => c.iexact p.account w.account) = some p →
      p.account = w.account ∨
        ∀ name, c.iexact w.account name → w.asked.Carried (p.buyer name) (p.buyer name)

section

variable {c : Casing} {s : Settings} {db : Db} {e : RequisitesEvent} {w : ProfileWrite}
  {profiles : List BillingProfile}

theorem buyer_eq (account : String) :
    OpenCloud.buyer c profiles account = (effectiveProfile c profiles account).buyer account := by
  unfold OpenCloud.buyer effectiveProfile
  cases profiles.find? fun p => c.iexact p.account account <;> rfl

theorem find?_iexact {name : String} (h : c.iexact w.account name) :
    (profiles.find? fun p => c.iexact p.account name) = profiles.find? fun p =>
      c.iexact p.account w.account := by
  have hname : ∀ p : BillingProfile, c.iexact p.account name ↔ c.iexact p.account w.account :=
    fun p =>
    ⟨fun hp => Casing.iexact_trans hp (Casing.iexact_comm.1 h), fun hp => Casing.iexact_trans hp h⟩
  simp only [hname]

theorem eq_ok_of_toOption {ε α : Type} {x : Except ε α} {a : α} (h : x.toOption = some a) :
    x = .ok a := by
  cases x with
  | error err => cases h
  | ok b => exact congrArg _ (Option.some.inj h)

/-- What an event that asks for a write does: it writes the row, if that fits. -/
theorem serve_of_target (htarget : e.target c db = some w) :
    (e.serve c s db).1 = (updateProfile db.billingProfiles w.account w.change).isOk ∧
      ∀ profiles, updateProfile db.billingProfiles w.account w.change = .ok profiles →
        (e.serve c s db).2.billingProfiles = profiles := by
  cases e with
  | adminProfile cloud user submitted =>
    obtain ⟨scope, hscope, rfl⟩ := Option.map_eq_some_iff.1 htarget
    simp only [RequisitesEvent.serve, adminProfilePut, eq_ok_of_toOption hscope]
    cases updateProfile db.billingProfiles scope.1 submitted.change with
    | error err => exact ⟨rfl, fun profiles h => by cases h⟩
    | ok profiles => exact ⟨rfl, fun profiles' h => by cases h; rfl⟩
  | accountProfile email name submitted =>
    obtain ⟨scope, hscope, rfl⟩ := Option.map_eq_some_iff.1 htarget
    simp only [RequisitesEvent.serve, accountProfilePut, eq_ok_of_toOption hscope]
    cases updateProfile db.billingProfiles scope.1 fun _ => submitted.row scope.1 with
    | error err => exact ⟨rfl, fun profiles h => by cases h⟩
    | ok profiles => exact ⟨rfl, fun profiles' h => by cases h; rfl⟩
  | capture cloud now takenOn => cases htarget

theorem account_before : (w.before profiles).account = w.account := by
  unfold ProfileWrite.before
  cases hfind : profiles.find? fun p => p.account = w.account with
  | none => rfl
  | some p => simpa using List.find?_some hfind

theorem ProfileWrite.account_change {p : BillingProfile} (h : p.account = w.account) :
    (w.change p).account = w.account := by
  rw [w.change_eq p h]
  exact h

theorem carried_updated (asked : SubmittedProfile) (p : BillingProfile) (name : String) :
    asked.Carried (p.buyer name) ((p.updated asked).buyer name) := by
  constructor
  case name =>
    show orElse (asked.legalName.getD p.legalName) name = _
    cases asked.legalName <;> rfl
  all_goals rfl

theorem ProfileWrite.carried_change {p : BillingProfile} (h : p.account = w.account)
    (name : String) :
    w.asked.Carried (p.buyer name) ((w.change p).buyer name) := by
  rw [w.change_eq p h]
  exact carried_updated w.asked p name

/-- The table after a write. -/
def ProfileWrite.written (w : ProfileWrite) (profiles : List BillingProfile) :
    List BillingProfile :=
  Table.upsert (fun p => p.account = w.account) (w.change (w.before profiles)) w.change profiles

theorem find?_written : ((w.written profiles).find? fun p => c.iexact p.account w.account) =
    some (((profiles.find? fun p => c.iexact p.account w.account).map fun p =>
      if p.account = w.account then w.change p else p).getD (w.change (w.before profiles))) := by
  have hiexact : ∀ p : BillingProfile, p.account = w.account → c.iexact p.account w.account := by
    intro p hp
    rw [hp]
    exact Casing.iexact_refl _ _
  exact Table.find?_upsert_of_imp hiexact (hiexact _ (w.account_change account_before))
    fun p hp => hiexact _ (w.account_change hp)

theorem find?_written_of_not_iexact {name : String} (hother : ¬ c.iexact w.account name) :
    ((w.written profiles).find? fun p => c.iexact p.account name) =
      profiles.find? fun p => c.iexact p.account name := by
  have hnot : ∀ p : BillingProfile, p.account = w.account →
    decide (c.iexact p.account name) = false := fun p hp =>
    decide_eq_false (hp ▸ hother)
  have hfilter : ((w.written profiles).filter fun p => c.iexact p.account name) =
      profiles.filter fun p => c.iexact p.account name :=
    Table.filter_upsert (hnot _ (w.account_change account_before))
      fun p hp => ⟨hnot p hp, hnot _ (w.account_change hp)⟩
  rw [← List.head?_filter, ← List.head?_filter]
  exact congrArg List.head? hfilter

/-- What is written is invoiced exactly if the first row of the account is of the very name that is
written, or has the texts already. -/
theorem invoiced_written_iff : w.Invoiced c profiles (w.written profiles) ↔
    ∀ p, (profiles.find? fun p => c.iexact p.account w.account) = some p →
      p.account = w.account ∨
        ∀ name, c.iexact w.account name → w.asked.Carried (p.buyer name) (p.buyer name) := by
  have hothers : ∀ name, ¬ c.iexact w.account name →
      OpenCloud.buyer c (w.written profiles) name = OpenCloud.buyer c profiles name := by
    intro name hother
    unfold OpenCloud.buyer
    rw [find?_written_of_not_iexact hother]
  have hown : ∀ name, c.iexact w.account name → OpenCloud.buyer c (w.written profiles) name =
      (((profiles.find? fun p => c.iexact p.account w.account).map fun p =>
        if p.account = w.account then w.change p else p).getD (w.change (w.before profiles))).buyer
          name := by
    intro name hname
    rw [buyer_eq, effectiveProfile, find?_iexact hname, find?_written, Option.getD_some]
  have hbefore : ∀ name, c.iexact w.account name →
      OpenCloud.buyer c profiles name = (effectiveProfile c profiles w.account).buyer name := by
    intro name hname
    rw [buyer_eq, effectiveProfile, find?_iexact hname, effectiveProfile]
    cases profiles.find? fun p => c.iexact p.account w.account <;> rfl
  constructor
  · intro h p hp
    by_cases hexact : p.account = w.account
    · exact .inl hexact
    · -- the row was not written, and the buyer is still made of it
      refine .inr fun name hname => ?_
      have hcarried := h.own name hname
      rwa [hown name hname, hbefore name hname, effectiveProfile, hp, Option.map_some,
        if_neg hexact, Option.getD_some, Option.getD_some] at hcarried
  · intro h
    refine ⟨fun name hname => ?_, hothers⟩
    rw [hown name hname, hbefore name hname, effectiveProfile]
    cases hfind : profiles.find? fun p => c.iexact p.account w.account with
    | none =>
      -- no row of the account in any spelling, so none of the very name
      have hnone : (profiles.find? fun p => p.account = w.account) = none := by
        refine List.find?_eq_none.2 fun p hp hexact => List.find?_eq_none.1 hfind p hp ?_
        rw [of_decide_eq_true hexact]
        exact decide_eq_true (Casing.iexact_refl _ _)
      rw [ProfileWrite.before, hnone]
      exact w.carried_change rfl name
    | some p =>
      rw [Option.map_some, Option.getD_some, Option.getD_some]
      split_ifs with hexact
      · exact w.carried_change hexact name
      · exact (h p hfind).resolve_left hexact name hname

/-- **A write is invoiced** exactly if it is in sight. -/
theorem invoicedAsWritten_iff : InvoicedAsWritten c s db e ↔ RequisitesInSight c db e := by
  refine forall_congr' fun w => forall_congr' fun htarget => ?_
  obtain ⟨hserve, hprofiles⟩ := @serve_of_target c s db e w htarget
  rw [hserve]
  by_cases hfits : (w.change (w.before db.billingProfiles)).Fits
  · have hupdate : updateProfile db.billingProfiles w.account w.change =
      .ok (w.written db.billingProfiles) :=
      if_pos hfits
    rw [hprofiles _ hupdate, hupdate, imp_iff_right hfits, ← invoiced_written_iff]
    exact imp_iff_right rfl
  · have hupdate : updateProfile db.billingProfiles w.account w.change = .error .data :=
      if_neg hfits
    rw [hupdate]
    exact iff_of_true (fun h => by cases h) fun h => absurd h hfits

/-- **The requisites last written are the ones invoiced.**  In every run of writes and measurements,
every write that succeeds is invoiced exactly if every write is in sight. -/
theorem invoiced_as_written_iff {db₀ : Db} {es : List RequisitesEvent} :
    (requisites c s).Run (fun _ db e => InvoicedAsWritten c s db e) db₀ es db ↔
      (requisites c s).Run (fun _ db e => RequisitesInSight c db e) db₀ es db := by
  constructor
  · exact fun h => h.mono fun _ _ _ => invoicedAsWritten_iff.1
  · exact fun h => h.mono fun _ _ _ => invoicedAsWritten_iff.2

end

/-! ### Requisites of another spelling -/

/-- An operator writes a name and a tax number. -/
def putRequisites (name legalName taxId : String) : RequisitesEvent :=
  .accountProfile "op@cloud" name ⟨some legalName, some taxId, none, none, none, none, none⟩

/-- The account was written in capitals before; what is then written under its own name succeeds,
and its documents still name the legal entity from before. -/
theorem old_entity_invoiced : ∃ db, (requisites .ascii plainSettings).Run System.Free .empty
      [putRequisites "ACME" "Old Ltd" "111"] db ∧
    ((putRequisites "Acme" "New Ltd" "222").serve .ascii plainSettings db).1 = true ∧
    (buyer .ascii
      ((putRequisites "Acme" "New Ltd" "222").serve .ascii plainSettings db).2.billingProfiles
      "Acme").name = "Old Ltd" ∧
    ¬ InvoicedAsWritten .ascii plainSettings db (putRequisites "Acme" "New Ltd" "222") := by
  refine ⟨_, System.Run.nil.snoc trivial rfl, by decide +kernel, by decide +kernel, fun h => ?_⟩
  have htarget : ∃ w, (putRequisites "Acme" "New Ltd" "222").target .ascii
      ((putRequisites "ACME" "Old Ltd" "111").serve .ascii plainSettings .empty).2 = some w :=
        ⟨_, rfl⟩
  obtain ⟨w, hw⟩ := htarget
  have htaxId := ((h w hw (by decide +kernel)).own "Acme" (by cases hw; decide +kernel)).taxId
  cases hw
  revert htaxId
  decide +kernel

end OpenCloud
