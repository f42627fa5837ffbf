import OpenCloud.Common.Integers
import OpenCloud.Platform.BillingViews

/-!
# The cabinet's pages of usage

An administrator sees the month of their own account: `adminBillingGet` prices it, as a whole and
project by project, and `adminUsageHistoryGet` lists the totals of the months.  The rows are those
of the domain that the cloud has under the account's name, and the price list is the account's own
or the default one.
-/

namespace OpenCloud

/-- Which price list an account is on, as the cabinet shows it. -/
structure CabinetTariff where
  name : Option String
  currency : Option String
  /-- None if the account has no list of its own and uses the default. -/
  account : Option String
  configured : Bool
  pricedResources : ℕ
  deriving DecidableEq

/-- `_tariff_payload`. -/
def cabinetTariff (tariff : Option Tariff) (rates : RateMap) : CabinetTariff :=
  match tariff with
  | none => ⟨none, none, none, false, 0⟩
  | some t =>
    ⟨some t.name, some t.currency, if t.account = "" then none else some t.account, !rates.isEmpty,
      rates.length⟩

/-- What the cabinet shows of a measurement: the snapshots that count, and no word of backups. -/
structure ShownMeasurements where
  vmsTotal : ℕ
  vmsRunning : ℕ
  vcpus : ℕ
  ramMb : ℕ
  ssdGib : ℕ
  hddGib : ℕ
  unlabelledGib : ℕ
  elasticIps : ℕ
  snapshotGib : ℤ
  deriving DecidableEq

/-- The measurement as the cabinet shows it. -/
def Measurements.shown (s : Measurements) (withBackups : Bool) : ShownMeasurements :=
  { s with snapshotGib := OpenCloud.snapshotGib s withBackups }

/-- One project of the month, as the cabinet shows it. -/
structure CabinetProject where
  id : String
  name : String
  total : Double
  days : ℕ
  lines : List CostLine
  latestOn : String
  latest : ShownMeasurements
  deriving DecidableEq

/-- The project with what the cabinet shows of its newest measurement. -/
def ProjectCost.inCabinet (p : ProjectCost) (withBackups : Bool) : CabinetProject :=
  { p with latest := p.latest.shown withBackups }

/-- The page of the caller's account and a month. -/
structure UsagePage where
  cost : Cost CostLine
  projects : List CabinetProject
  tariff : CabinetTariff
  period : String
  periodFrom : Date
  periodTo : Date
  account : String
  projectsCount : ℕ
  daysMeasured : ℕ
  daysInPeriod : ℕ

/-- The rows of a domain in a month. -/
def domainRows (db : Db) (domainId : String) (m : Month) : List UsageSnapshot :=
  db.usageSnapshots.rows.filter fun row => row.domainId = domainId ∧ m.Covers row.takenOn

section Views

variable (c : Casing) (cloud : Cloud) (user : CabinetUser) (db : Db)

/-- The prices the cabinet charges an account. -/
def cabinetRates (account : String) : RateMap :=
  rateMap db.tariffRates (resolveTariff c db.tariffs account)

/-- The page of an account. -/
def usagePage (account domainId : String) (m : Month) : UsagePage :=
  let rates := cabinetRates c db account
  let snapshots := (domainRows db domainId m).insertionSort UsageSnapshot.le
  let projects := (projectCosts db.accountSettings snapshots rates).map
    fun p => p.inCabinet (countsBackups db.accountSettings domainId)
  { cost := costOf db.accountSettings snapshots rates
    projects := projects
    tariff := cabinetTariff (resolveTariff c db.tariffs account) rates
    period := m.label
    periodFrom := m.first
    periodTo := m.last
    account := account
    projectsCount := projects.length
    daysMeasured := measuredDays snapshots
    daysInPeriod := m.days }

/-- `AdminBillingView.get`. -/
def adminBillingGet (m : Month) : Except AppError UsagePage :=
  match accountDomain c cloud user with
  | .error err => .error err
  | .ok (account, domainId) => .ok (usagePage c db account domainId m)

/-- `int(… or 6)`: the number of months asked for, here and in `AccountBillingView`. -/
def requestedMonths (table : DigitTable) (param : Option String) : Option ℤ :=
  if param.getD "" = "" then some 6 else int table (param.getD "")

/-- It is cut to 1 to 24. -/
def historyMonths (table : DigitTable) (param : Option String) : Except AppError ℕ :=
  match requestedMonths table param with
  | none => .error ⟨"months must be a number", "invalid_request", 400⟩
  | some months => .ok (min (max months 1) 24).toNat

/-- What `AdminUsageHistoryView` answers. -/
structure HistoryReply where
  data : List HistoryEntry
  account : String
  currency : Option String
  deriving DecidableEq

/-- `AdminUsageHistoryView.get`. -/
def adminUsageHistoryGet (table : DigitTable) (param : Option String) :
    Except AppError HistoryReply :=
  match accountDomain c cloud user with
  | .error err => .error err
  | .ok (account, domainId) => match historyMonths table param with
    | .error err => .error err
    | .ok months => .ok
      { data := history db.accountSettings
          (db.usageSnapshots.rows.filter fun row => row.domainId = domainId)
          (cabinetRates c db account) months
        account := account
        currency := (resolveTariff c db.tariffs account).map Tariff.currency }

variable {c cloud user db}

theorem adminBillingGet_eq_ok {m : Month} {page : UsagePage}
    (h : adminBillingGet c cloud user db m = .ok page) :
    ∃ account domainId, accountDomain c cloud user = .ok (account, domainId) ∧
      page = usagePage c db account domainId m := by
  unfold adminBillingGet at h
  split at h
  · cases h
  · rename_i account domainId hscope
    exact ⟨account, domainId, hscope, (Except.ok.inj h).symm⟩

theorem adminBillingGet_of_accountDomain {account domainId : String}
    (h : accountDomain c cloud user = .ok (account, domainId)) (m : Month) :
    adminBillingGet c cloud user db m = .ok (usagePage c db account domainId m) := by
  rw [adminBillingGet, h]

theorem adminUsageHistoryGet_eq_ok {table : DigitTable} {param : Option String}
    {reply : HistoryReply} (h : adminUsageHistoryGet c cloud user db table param = .ok reply) :
    ∃ account domainId months, accountDomain c cloud user = .ok (account, domainId) ∧
      historyMonths table param = .ok months ∧ reply.account = account ∧
      reply.data = history db.accountSettings
        (db.usageSnapshots.rows.filter fun row => row.domainId = domainId)
          (cabinetRates c db account) months := by
  unfold adminUsageHistoryGet at h
  split at h
  · cases h
  · rename_i account domainId hscope
    split at h
    · cases h
    · rename_i months hmonths
      obtain rfl := Except.ok.inj h
      exact ⟨account, domainId, months, hscope, hmonths, rfl, rfl⟩

end Views

/-- A cloud of one account that holds nothing. -/
def emptyAccount : Cloud where
  serviceToken := .ok "token"
  vms := .ok []
  volumes := .ok []
  elasticIps := .ok []
  volumeSnapshots := .ok []
  directory := .ok [⟨"d1", "Acme"⟩]
  projects _ := .ok []

/-- Its administrator. -/
def accountAdmin : CabinetUser := ⟨"Acme", "ann", "u1"⟩

end OpenCloud
