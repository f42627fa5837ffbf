import OpenCloud.Billing.Views

/-!
# Money, across every account

The operators' pages of one account: `accountBillingGet` is its month, `accountInvoicePost` issues
it. Every figure comes from the table of measurements; no cloud call is made.  An operator names the
account in the URL, and `resolveAccount` takes its spelling and domain id from the newest
measurement under that name.

## Main results

* `accountInvoicePost_cases` : an issue request either changes no table of invoices or issues.
-/

namespace OpenCloud

/-- The newest measurement under a name.  Of several on one day the database may take any; the model
takes the first. -/
def newestMeasurement (c : Casing) (snapshots : SnapshotTable) (name : String) :
    Option UsageSnapshot :=
  Table.firstBy (fun a b : UsageSnapshot => b.takenOn ≤ a.takenOn)
    (snapshots.rows.filter fun row => c.iexact row.account name)

/-- The account as billing knows it: its stored spelling and its domain id, empty for an account
that was never measured. -/
def resolveAccount (c : Casing) (snapshots : SnapshotTable) (name : String) :
    Except AppError (String × String) :=
  let name := strip name
  if name = "" then .error ⟨"An account is required.", "invalid_request", 400⟩
  else match newestMeasurement c snapshots name with
    | some latest => .ok (latest.account, latest.domainId)
    | none => .ok (name, "")

/-- `_Tariffs.of`: the account's own price list, else the shared default, of those active. -/
def tariffOf (c : Casing) (tariffs : List Tariff) (account : String) : Option Tariff :=
  let listed := (tariffs.filter fun t => t.isActive).insertionSort Tariff.le
  let own : Dict String Tariff := (listed.filter fun t => t.account ≠ "").foldl
    (fun d t => Dict.set d (c.lower t.account) t) []
  Dict.get? own (c.lower account) <|> listed.find? fun t => t.account = ""

/-- Which price list an account is on. -/
structure TariffPayload where
  name : Option String
  currency : Option String
  inherited : Bool
  configured : Bool
  pricedResources : ℕ
  deriving DecidableEq

/-- `_tariff_payload`. -/
def tariffPayload (c : Casing) (tariff : Option Tariff) (rates : RateMap) (account : String) :
    TariffPayload :=
  match tariff with
  | none => ⟨none, none, true, false, 0⟩
  | some t => ⟨some t.name, some t.currency,
      account = "" ∨ c.lower t.account ≠ c.lower account, !rates.isEmpty, rates.length⟩

/-- The month of one account's history. -/
structure HistoryEntry where
  period : String
  total : Double
  days : ℕ
  deriving DecidableEq

/-- `_history`: monthly totals of the rows, the last `months` of them. -/
def history (settings : List AccountSettings) (rows : List UsageSnapshot) (rates : RateMap)
    (months : ℕ) : List HistoryEntry :=
  let rows := rows.insertionSort fun a b => a.takenOn ≤ b.takenOn
  let buckets := Dict.collect (fun row => some row.takenOn.monthLabel) ([] : List UsageSnapshot)
    (fun row rows => rows ++ [row]) [] rows
  let sorted := buckets.insertionSort fun a b => a.1 ≤ b.1
  (sorted.drop (sorted.length - months)).map fun e =>
    let cost := costOf settings e.2 rates
    ⟨e.1, cost.total, cost.days⟩

/-- `_profile_payload`. -/
structure ProfilePayload where
  account : String
  legalName : String
  taxId : String
  address : String
  contract : String
  director : String
  email : String
  phone : String
  existing : Bool
  deriving DecidableEq

/-- The requisites of an account. -/
def profilePayload (c : Casing) (profiles : List BillingProfile) (account : String) :
    ProfilePayload :=
  match profiles.find? fun p => c.iexact p.account account with
  | none => ⟨account, "", "", "", "", "", "", "", false⟩
  | some p => ⟨account, p.legalName, p.taxId, p.address, p.contract, p.director, p.email, p.phone,
      true⟩

/-- One project of the month: its bill and its newest measurement. -/
structure ProjectCost where
  id : String
  name : String
  total : Double
  days : ℕ
  lines : List CostLine
  latestOn : String
  latest : Measurements
  deriving DecidableEq

/-- `Meta.ordering` of `UsageSnapshot`. -/
def UsageSnapshot.le (a b : UsageSnapshot) : Prop :=
  b.takenOn < a.takenOn ∨ (a.takenOn = b.takenOn ∧ a.projectName ≤ b.projectName)

instance : DecidableRel UsageSnapshot.le := fun _ _ => inferInstanceAs (Decidable (_ ∨ _))

/-- The rows by project, dearest project first. -/
def projectCosts (settings : List AccountSettings) (rows : List UsageSnapshot) (rates : RateMap) :
    List ProjectCost :=
  let byProject := Dict.collect (fun row => some row.projectId) ([] : List UsageSnapshot)
    (fun row rows => rows ++ [row]) [] rows
  let projects := byProject.filterMap fun e =>
    let cost := costOf settings e.2 rates
    (Table.firstBy (fun a b : UsageSnapshot => b.takenOn ≤ a.takenOn) e.2).map fun latest =>
      { id := e.1, name := orElse latest.projectName e.1, total := cost.total, days := cost.days
        lines := cost.lines, latestOn := latest.takenOn.toStr, latest := latest.toMeasurements }
  projects.insertionSort fun a b => b.total.val ≤ a.total.val

/-- The page of one account and month. -/
structure AccountPage where
  cost : Cost CostLine
  projects : List ProjectCost
  tariff : TariffPayload
  history : List HistoryEntry
  invoice : Document
  profile : ProfilePayload
  account : String
  domainId : String
  period : String
  daysMeasured : ℕ
  daysInPeriod : ℕ
  countsBackups : Bool

section Operators

variable (c : Casing) (s : Settings) (name : String) (m : Month) (db : Db)

/-- The rows of an account: by its domain id where it is known, else by its name. -/
def inScope (account domainId : String) (row : UsageSnapshot) : Bool :=
  if domainId ≠ "" then row.domainId = domainId else c.iexact row.account account

/-- `AccountBillingView.get`, with the number of months of history read from the request. -/
def accountBillingGet (months : ℕ) : Except AppError AccountPage := do
  let (account, domainId) ← resolveAccount c db.usageSnapshots name
  let rates := rateMap db.tariffRates (tariffOf c db.tariffs account)
  let scope := db.usageSnapshots.rows.filter (inScope c account domainId)
  let periodRows := (scope.filter fun row => m.Covers row.takenOn).insertionSort UsageSnapshot.le
  let document := match findInvoice c db.book.invoices account m.label with
    | some issued => serialize s issued (db.book.linesOf issued.number)
    | none => draft c s db account domainId m
  return {
    cost := costOf db.accountSettings periodRows rates
    projects := projectCosts db.accountSettings periodRows rates
    tariff := tariffPayload c (tariffOf c db.tariffs account) rates account
    history := history db.accountSettings scope rates months
    invoice := document
    profile := profilePayload c db.billingProfiles account
    account := account
    domainId := domainId
    period := m.label
    daysMeasured := measuredDays periodRows
    daysInPeriod := m.days
    countsBackups := countsBackups db.accountSettings domainId }

/-- The journal row of an issue request. -/
def issueAction (email account : String) (targetId : String) (outcome : Outcome)
    (errorCode : String) (detail : List (String × Detail)) : AdminAction :=
  { actorEmail := orElse email "anonymous", action := "invoice.issue", targetAccount := account
    targetType := "invoice", targetId := targetId, targetName := account ++ " " ++ m.label
    outcome := outcome, errorCode := errorCode, detail := detail }

/-- `AccountInvoiceView.post`: issue the month.  A refusal is recorded in the journal. -/
def accountInvoicePost (today : Date) (now : Instant) (email : String) :
    Except Failure InvoiceReply × Db :=
  match resolveAccount c db.usageSnapshots name with
  | .error err => (.error (.app err), db)
  | .ok (account, domainId) =>
    if today < m.first then (.error (.app notStarted), db)
    else match refusal (draft c s db account domainId m) with
      | some err =>
        (.error (.app err), db.record (issueAction m email account "" .failure err.code []))
      | none =>
        match issue c s db now account domainId m email with
        | .error err => (.error (.db err), db)
        | .ok (issued, book) =>
          (.ok ⟨issued, account, m.label⟩, (db.setBook book).record
            (issueAction m email account (issued.number.getD "") .success ""
              [("total", .num issued.total), ("currency", .text issued.currency),
                ("period", .text m.label)]))

end Operators

/-! ### What the page is drawn from -/

section

variable (c : Casing) (db : Db) (account domainId : String)

/-- The rows of an account, of all months. -/
def scopeRows : List UsageSnapshot := db.usageSnapshots.rows.filter (inScope c account domainId)

/-- Those of a month, in the order of the table. -/
def pageRows (m : Month) : List UsageSnapshot :=
  ((scopeRows c db account domainId).filter fun row => m.Covers row.takenOn).insertionSort
    UsageSnapshot.le

/-- The prices an account is on. -/
def operatorRates : RateMap := rateMap db.tariffRates (tariffOf c db.tariffs account)

variable {c db}

theorem accountBillingGet_eq_ok {s : Settings} {name : String} {m : Month} {months : ℕ}
    {page : AccountPage} (h : accountBillingGet c s name m db months = .ok page) :
    resolveAccount c db.usageSnapshots name = .ok (page.account, page.domainId) ∧
      page.cost = costOf db.accountSettings (pageRows c db page.account page.domainId m)
        (operatorRates c db page.account) ∧
      page.projects = projectCosts db.accountSettings (pageRows c db page.account page.domainId m)
        (operatorRates c db page.account) ∧
      page.history = history db.accountSettings (scopeRows c db page.account page.domainId)
        (operatorRates c db page.account) months ∧
      page.daysMeasured = measuredDays (pageRows c db page.account page.domainId m) := by
  unfold accountBillingGet at h
  cases hresolve : resolveAccount c db.usageSnapshots name with
  | error err => simp [hresolve, bind, Except.bind] at h
  | ok scope =>
    rw [hresolve] at h
    obtain rfl := Except.ok.inj h
    exact ⟨rfl, rfl, rfl, rfl, rfl⟩

theorem exists_accountBillingGet {account domainId name : String}
    (h : resolveAccount c db.usageSnapshots name = .ok (account, domainId)) (s : Settings)
    (m : Month) (months : ℕ) : ∃ page, accountBillingGet c s name m db months = .ok page ∧
      page.account = account ∧
      page.domainId = domainId := by
  unfold accountBillingGet
  rw [h]
  exact ⟨_, rfl, rfl, rfl⟩

end

/-! ### What an issue request does -/

section

variable {c : Casing} {s : Settings} {name : String} {m : Month} {db db' : Db} {today : Date}
  {now : Instant} {email : String} {answer : Except Failure InvoiceReply}

/-- A request that answers a document issued it; one that fails leaves the invoices alone. -/
theorem accountInvoicePost_cases
    (h : accountInvoicePost c s name m db today now email = (answer, db')) :
    (∃ err, answer = .error err ∧ db'.book = db.book) ∨
    ∃ account domainId issued book,
      resolveAccount c db.usageSnapshots name = .ok (account, domainId) ∧
      refusal (draft c s db account domainId m) = none ∧
      issue c s db now account domainId m email = .ok (issued, book) ∧
      answer = .ok ⟨issued, account, m.label⟩ ∧ db'.book = book := by
  unfold accountInvoicePost at h
  split at h
  · obtain ⟨rfl, rfl⟩ := Prod.mk.inj h
    exact .inl ⟨_, rfl, rfl⟩
  · rename_i account domainId hscope
    split at h
    · obtain ⟨rfl, rfl⟩ := Prod.mk.inj h
      exact .inl ⟨_, rfl, rfl⟩
    · split at h
      · obtain ⟨rfl, rfl⟩ := Prod.mk.inj h
        exact .inl ⟨_, rfl, rfl⟩
      · rename_i hrefusal
        split at h
        · obtain ⟨rfl, rfl⟩ := Prod.mk.inj h
          exact .inl ⟨_, rfl, rfl⟩
        · rename_i issued book hissue
          obtain ⟨rfl, rfl⟩ := Prod.mk.inj h
          exact .inr ⟨account, domainId, issued, book, hscope, hrefusal, hissue, rfl, rfl⟩

end

end OpenCloud
