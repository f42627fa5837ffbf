import OpenCloud.Platform.BillingViews

/-!
# Writing the requisites

The requisites of an account are written by its administrator in the cabinet and by operators in the
panel. The cabinet keeps the fields a payload leaves out; the panel blanks them, and cuts each to
its column.
-/

namespace OpenCloud

/-- The fields of a payload, each as its text; none where it is left out. -/
structure SubmittedProfile where
  legalName : Option String
  taxId : Option String
  address : Option String
  contract : Option String
  director : Option String
  email : Option String
  phone : Option String

/-- `str(value).strip()[:width]`. -/
def cut (width : ℕ) (value : String) : String := String.ofList ((strip value).toList.take width)

/-- The text of a column: that of the payload, at most so long, or what was there. -/
def SubmittedProfile.change (submitted : SubmittedProfile) (row : BillingProfile) :
    BillingProfile where
  account := row.account
  legalName := (submitted.legalName.map (cut 500)).getD row.legalName
  taxId := (submitted.taxId.map (cut 500)).getD row.taxId
  address := (submitted.address.map (cut 500)).getD row.address
  contract := (submitted.contract.map (cut 500)).getD row.contract
  director := (submitted.director.map (cut 500)).getD row.director
  email := (submitted.email.map (cut 500)).getD row.email
  phone := (submitted.phone.map (cut 500)).getD row.phone

/-- The columns as the panel writes them. -/
def SubmittedProfile.row (submitted : SubmittedProfile) (account : String) : BillingProfile where
  account := account
  legalName := cut 255 (submitted.legalName.getD "")
  taxId := cut 32 (submitted.taxId.getD "")
  address := cut 500 (submitted.address.getD "")
  contract := cut 120 (submitted.contract.getD "")
  director := cut 255 (submitted.director.getD "")
  email := cut 254 (submitted.email.getD "")
  phone := cut 64 (submitted.phone.getD "")

/-- The columns of `billing_profiles` take these texts. -/
def BillingProfile.Fits (row : BillingProfile) : Prop :=
  row.account.length ≤ 255 ∧ row.legalName.length ≤ 255 ∧ row.taxId.length ≤ 32 ∧
    row.address.length ≤ 500 ∧
    row.contract.length ≤ 120 ∧ row.director.length ≤ 255 ∧ row.email.length ≤ 254 ∧
      row.phone.length ≤ 64

instance : DecidablePred BillingProfile.Fits := fun _ => inferInstanceAs (Decidable (_ ∧ _))

/-- `BillingProfile.objects.update_or_create(account=…, defaults=…)`, the defaults being what
`change` sets. -/
def updateProfile (profiles : List BillingProfile) (account : String)
    (change : BillingProfile → BillingProfile) :
    Except DbError (List BillingProfile) :=
  let row :=
    (profiles.find? fun p => p.account = account).getD ⟨account, "", "", "", "", "", "", ""⟩
  if (change row).Fits then
    .ok (Table.upsert (fun p => p.account = account) (change row) change profiles)
  else .error .data

section

variable (c : Casing) (s : Settings) (db : Db)

/-- `AdminBillingProfileView._payload`: the requisites under the account's name, and the seller. -/
def adminProfilePayload (profiles : List BillingProfile) (account : String) :
    BillingProfile × Seller :=
  match profiles.find? fun p => c.iexact p.account account with
  | none => (⟨account, "", "", "", "", "", "", ""⟩, s.billingSeller)
  | some p => ({ p with account := account }, s.billingSeller)

/-- `AdminBillingProfileView.put`. -/
def adminProfilePut (cloud : Cloud) (user : CabinetUser) (submitted : SubmittedProfile) :
    Except Failure (BillingProfile × Seller) × Db :=
  match accountDomain c cloud user with
  | .error err => (.error (.app err), db)
  | .ok (account, _) =>
    match updateProfile db.billingProfiles account submitted.change with
    | .error err => (.error (.db err), db)
    | .ok profiles =>
      (.ok (adminProfilePayload c s profiles account), { db with billingProfiles := profiles })

/-- `AccountProfileView.put`. -/
def accountProfilePut (email name : String) (submitted : SubmittedProfile) :
    Except Failure ProfilePayload × Db :=
  match resolveAccount c db.usageSnapshots name with
  | .error err => (.error (.app err), db)
  | .ok (account, _) =>
    let row := submitted.row account
    match updateProfile db.billingProfiles account fun _ => row with
    | .error err => (.error (.db err), db)
    | .ok profiles =>
      (.ok (profilePayload c profiles account), { db with billingProfiles := profiles }.record
        { actorEmail := orElse email "anonymous", action := "billing.profile.update",
          targetAccount := account
          targetType := "billing_profile", targetId := "", targetName := account
          outcome := .success, errorCode := ""
          detail := [("legalName", .text row.legalName), ("taxId", .text row.taxId)] })

end

theorem adminProfilePut_frame (c : Casing) (s : Settings) (db : Db) (cloud : Cloud)
    (user : CabinetUser) (submitted : SubmittedProfile) : ∃ profiles,
      (adminProfilePut c s db cloud user submitted).2 =
        { db with billingProfiles := profiles } := by
  unfold adminProfilePut
  split
  · exact ⟨_, rfl⟩
  · split
    · exact ⟨_, rfl⟩
    · exact ⟨_, rfl⟩

theorem accountProfilePut_frame (c : Casing) (db : Db) (email name : String)
    (submitted : SubmittedProfile) :
    ∃ profiles actions, (accountProfilePut c db email name submitted).2 =
      { db with billingProfiles := profiles, adminActions := actions } := by
  unfold accountProfilePut
  split
  · exact ⟨_, _, rfl⟩
  · dsimp only
    split
    · exact ⟨_, _, rfl⟩
    · exact ⟨_, _, rfl⟩

end OpenCloud
