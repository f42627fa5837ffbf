import OpenCloud.Platform.BillingViews
import OpenCloud.Lib.Tallies
import Mathlib.Data.String.Basic

/-!
# What every account owes

`billingOverviewGet` is the operators' overview of a month: one row for each account measured in it.
Measurements are grouped by domain id and shown under the newest name; those without a domain have a
group for each name.  Price lists and invoices are looked up by the name shown.

## Main results

* `mem_overview` : a row with a domain id is made of the measurements of the domain in the month.
* `get?_issuedInvoices` : of several invoices under a name the last is shown.
-/

namespace OpenCloud

/-- What a row shows of an invoice. -/
structure IssuedShown where
  number : String
  total : Double
  issuedAt : Instant
  issuedBy : String
  deriving DecidableEq

/-- A row of the overview. -/
structure OverviewRow where
  account : String
  domainId : String
  projects : ℕ
  daysMeasured : ℕ
  total : Double
  currency : Option String
  tariff : TariffPayload
  unpriced : List String
  missingRequisites : List String
  invoice : Option IssuedShown
  deriving DecidableEq

/-- The revenue of the month, per currency. -/
structure ClusterTotals where
  byCurrency : List (String × Double)
  /-- Present where there is one currency. -/
  currency : Option String
  total : Option Double
  accountsBilled : ℕ
  invoicesIssued : ℕ
  deriving DecidableEq

/-- `_cluster_totals`. -/
def clusterTotals (rows : List OverviewRow) : ClusterTotals :=
  let perCurrency := Dict.collect
    (fun row : OverviewRow => if row.total.val = 0 then
      none else some (orElse (row.currency.getD "") "—")) 0
    (fun row sum => sum + row.total.decimal) [] rows
  let byCurrency :=
    (perCurrency.map fun e => (e.1, Double.ofRat e.2)).insertionSort fun a b => b.2.val ≤ a.2.val
  let only := if byCurrency.length = 1 then byCurrency.head? else none
  { byCurrency := byCurrency
    currency := only.map Prod.fst
    total := only.map Prod.snd
    accountsBilled := rows.countP fun row => row.total.val ≠ 0
    invoicesIssued := rows.countP fun row => row.invoice.isSome }

/-- The overview of a month. -/
structure Overview where
  accounts : List OverviewRow
  totals : ClusterTotals
  period : String
  periodFrom : String
  periodTo : String
  daysMeasured : ℕ
  daysInPeriod : ℕ

/-- The group of a measurement: its domain, else its name under a heading of its own. -/
def overviewKey (row : UsageSnapshot) : String := orElse row.domainId ("name:" ++ row.account)

/-- `issued`: the invoices of the month by name; of several under one name, the last. -/
def issuedInvoices (c : Casing) (invoices : List Invoice) (period : String) : Dict String Invoice :=
  ((invoices.filter fun inv => inv.period = period).insertionSort Invoice.le).foldl
    (fun d inv => Dict.set d (c.lower inv.account) inv) []

section Overview

variable (c : Casing) (s : Settings) (m : Month) (db : Db)

/-- The measurements of the month, the newest last. -/
def overviewSnapshots : List UsageSnapshot :=
  (db.usageSnapshots.rows.filter fun row => m.Covers row.takenOn).insertionSort
    fun a b => a.takenOn ≤ b.takenOn

/-- `by_account`. -/
def overviewGroups : Dict String (List UsageSnapshot) :=
  Dict.collect (fun row => some (overviewKey row)) [] (fun row rows => rows ++ [row]) []
    (overviewSnapshots m db)

/-- The row of one group, the newest measurement of which is `latest`. -/
def overviewRow (snapshots : List UsageSnapshot) (latest : UsageSnapshot) : OverviewRow :=
  let account := latest.account
  let tariff := tariffOf c db.tariffs account
  let rates := rateMap db.tariffRates tariff
  let cost := costOf db.accountSettings snapshots rates
  { account := account
    domainId := ((snapshots.map UsageSnapshot.domainId).find? fun d => d ≠ "").getD ""
    projects := (snapshots.map UsageSnapshot.projectId).dedup.length
    daysMeasured := cost.days
    total := cost.total
    currency := tariff.map Tariff.currency
    tariff := tariffPayload c tariff rates account
    unpriced := (cost.lines.filter fun line => !line.priced).map fun line => line.label
    missingRequisites :=
      if account = "" then
        [] else missingRequisites s.billingSeller (buyer c db.billingProfiles account)
    invoice :=
      ((issuedInvoices c db.book.invoices m.label).get? (c.lower account)).map fun invoice =>
      ⟨invoice.number, .ofRat invoice.total, invoice.issuedAt, invoice.issuedBy⟩ }

/-- `BillingOverviewView.get`. -/
def billingOverviewGet : Overview :=
  let snapshots := overviewSnapshots m db
  let rows := (overviewGroups m db).filterMap fun e => e.2.getLast?.map (overviewRow c s m db e.2)
  let rows := rows.insertionSort fun a b => b.total.val ≤ a.total.val
  { accounts := rows
    totals := clusterTotals rows
    period := m.label
    periodFrom := m.first.toStr
    periodTo := m.last.toStr
    daysMeasured := measuredDays snapshots
    daysInPeriod := m.days }

end Overview

/-! ### The groups -/

section

variable {c : Casing} {s : Settings} {m : Month} {db : Db} {row : OverviewRow} {k : String}
  {snapshots : List UsageSnapshot}

theorem mem_overviewGroups (h : (k, snapshots) ∈ overviewGroups m db) :
    snapshots = (overviewSnapshots m db).filter fun row => overviewKey row = k := by
  have hnodup : (overviewGroups m db).keys.Nodup :=
    Dict.nodup_keys_collect (d := []) List.nodup_nil _
  have hgroup := Dict.getD_group (fun row => some (overviewKey row)) (overviewSnapshots m db) k
  rw [← overviewGroups, (Dict.mem_iff_get? hnodup).1 h, Option.getD_some] at hgroup
  simpa only [Option.some_inj] using hgroup

theorem mem_overviewSnapshots {row : UsageSnapshot} :
    row ∈ overviewSnapshots m db ↔ row ∈ db.usageSnapshots.rows ∧ m.Covers row.takenOn := by
  rw [overviewSnapshots, List.mem_insertionSort, List.mem_filter, decide_eq_true_eq]

theorem overviewKey_eq_iff {row : UsageSnapshot} {d : String} (hd : d ≠ "")
    (hrow : row.domainId = "" → "name:" ++ row.account ≠ d) : overviewKey row = d ↔
      row.domainId = d := by
  unfold overviewKey orElse
  split_ifs with hdomain
  · exact iff_of_false (hrow hdomain) fun h => hd (h ▸ hdomain)
  · rfl

theorem domainId_overviewRow {latest : UsageSnapshot}
    (h : (overviewRow c s m db snapshots latest).domainId ≠ "") :
    ∃ row ∈ snapshots, row.domainId = (overviewRow c s m db snapshots latest).domainId := by
  simp only [overviewRow] at h ⊢
  cases hfind : (snapshots.map UsageSnapshot.domainId).find? fun d => d ≠ "" with
  | none =>
    rw [hfind] at h
    exact absurd rfl h
  | some d =>
    obtain ⟨row, hrow, rfl⟩ := List.mem_map.1 (List.mem_of_find?_eq_some hfind)
    exact ⟨row, hrow, rfl⟩

/-- The measurements of a domain in the month, the newest last. -/
def domainSnapshots (m : Month) (db : Db) (d : String) : List UsageSnapshot :=
  (overviewSnapshots m db).filter fun row => row.domainId = d

/-- A row with a domain id is made of the measurements of the domain, where no measurement without a
domain has the domain's id for its heading. -/
theorem mem_overview (h : row ∈ (billingOverviewGet c s m db).accounts) (hd : row.domainId ≠ "")
    (hapart : ∀ a ∈ db.usageSnapshots.rows, ∀ b ∈ db.usageSnapshots.rows, a.domainId ≠ "" →
      b.domainId = "" →
      "name:" ++ b.account ≠ a.domainId) :
    ∃ latest, (domainSnapshots m db row.domainId).getLast? = some latest ∧
      row = overviewRow c s m db (domainSnapshots m db row.domainId) latest := by
  simp only [billingOverviewGet, List.mem_insertionSort, List.mem_filterMap] at h
  obtain ⟨⟨k, snapshots⟩, hgroup, hrow⟩ := h
  obtain ⟨latest, hlatest, rfl⟩ := Option.map_eq_some_iff.1 hrow
  have hsnapshots := mem_overviewGroups hgroup
  obtain ⟨a, ha, hda⟩ := domainId_overviewRow hd
  rw [← hda] at hd ⊢
  rw [hsnapshots] at ha
  obtain ⟨ha, hkey⟩ := List.mem_filter.1 ha
  have hall : ∀ b ∈ overviewSnapshots m db, overviewKey b = a.domainId ↔ b.domainId = a.domainId :=
    fun b hb =>
    overviewKey_eq_iff hd
      (hapart a (mem_overviewSnapshots.1 ha).1 b (mem_overviewSnapshots.1 hb).1 hd)
  have hk : k = a.domainId := (of_decide_eq_true hkey).symm.trans ((hall a ha).2 rfl)
  have hsame : snapshots = domainSnapshots m db a.domainId := by
    rw [hsnapshots, hk]
    exact List.filter_congr fun b hb => decide_eq_decide.2 (hall b hb)
  exact ⟨latest, hsame ▸ hlatest, by rw [hsame]⟩

theorem domainSnapshots_perm (m : Month) (db : Db) (d : String) :
    (domainSnapshots m db d).Perm (draftRows db.usageSnapshots d m) := by
  have hperm := (List.perm_insertionSort (fun a b : UsageSnapshot => a.takenOn ≤ b.takenOn)
    (db.usageSnapshots.rows.filter fun row => m.Covers row.takenOn)).filter fun row =>
      row.domainId = d
  rw [Table.filter_and] at hperm
  unfold domainSnapshots overviewSnapshots draftRows
  simpa only [and_comm] using hperm

end

/-! ### The invoices of a name -/

instance : Std.Total Invoice.le :=
  inferInstanceAs
    (Std.Total (Table.ByTwo (fun inv : Invoice => OrderDual.toDual inv.period) Invoice.account))

instance : IsTrans Invoice Invoice.le :=
  inferInstanceAs
    (IsTrans _ (Table.ByTwo (fun inv : Invoice => OrderDual.toDual inv.period) Invoice.account))

/-- The invoices of a month under a name, ignoring case, in the order of the table. -/
def invoicesUnder (c : Casing) (invoices : List Invoice) (period name : String) : List Invoice :=
  (invoices.filter fun inv => inv.period = period ∧
    c.lower inv.account = c.lower name).insertionSort Invoice.le

section

variable {c : Casing} {invoices : List Invoice} {period name : String}

theorem mem_invoicesUnder {inv : Invoice} : inv ∈ invoicesUnder c invoices period name ↔
    inv ∈ invoices ∧ inv.period = period ∧ c.lower inv.account = c.lower name := by
  rw [invoicesUnder, List.mem_insertionSort, List.mem_filter, decide_eq_true_eq]

/-- Of several invoices under a name the overview shows the last. -/
theorem get?_issuedInvoices : (issuedInvoices c invoices period).get? (c.lower name) =
    (invoicesUnder c invoices period name).getLast? :=
  Table.get?_foldl_set_ordered

theorem findInvoice_eq (hcase : c.AgreeOn (name :: invoices.map Invoice.account)) :
    findInvoice c invoices name period = (invoicesUnder c invoices period name).head? := by
  rw [findInvoice, Table.firstBy, invoicesUnder]
  congr 2
  refine List.filter_congr fun inv hinv => ?_
  rw [decide_eq_decide, and_comm,
    hcase _ (List.mem_cons_of_mem _ (List.mem_map_of_mem hinv)) _ List.mem_cons_self]

end

end OpenCloud
