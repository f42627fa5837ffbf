import OpenCloud.Common.Exceptions
import OpenCloud.Audit.Journals
import OpenCloud.Billing.Models

/-!
# The database and the configuration

`Db` is the tables the billing code reads and writes, `Settings` what it reads from the
configuration.  Both change between requests: the tables by the requests, the configuration when the
service is deployed again.
-/

namespace OpenCloud

/-- The configuration. -/
structure Settings where
  /-- `BILLING_VAT_RATE` as a decimal; none if it is not a number. -/
  billingVatRate : Option ℚ
  /-- `BILLING_PRICES_INCLUDE_VAT`. -/
  billingPricesIncludeVat : Bool
  /-- `BILLING_SELLER`. -/
  billingSeller : Seller

/-- The tables. -/
structure Db where
  accountSettings : List AccountSettings
  tariffs : List Tariff
  tariffRates : List TariffRate
  usageSnapshots : SnapshotTable
  billingProfiles : List BillingProfile
  book : InvoiceBook
  auditLog : List AuditLog
  adminActions : List AdminAction

namespace Db

/-- The tables before anything is written. -/
def empty : Db := ⟨[], [], [], .empty, [], .empty, [], []⟩

/-- Write a row of the cabinet's journal. -/
def audit (db : Db) (row : AuditLog) : Db := { db with auditLog := db.auditLog ++ [row] }

/-- Write a row of the operators' journal. -/
def record (db : Db) (row : AdminAction) : Db :=
  { db with adminActions := db.adminActions ++ [row] }

/-- Replace the tables of invoices. -/
def setBook (db : Db) (book : InvoiceBook) : Db := { db with book := book }

@[simp] theorem audit_book (db : Db) (row : AuditLog) : (db.audit row).book = db.book := rfl

@[simp] theorem record_book (db : Db) (row : AdminAction) : (db.record row).book = db.book := rfl

@[simp] theorem setBook_book (db : Db) (book : InvoiceBook) : (db.setBook book).book = book := rfl

end Db

/-! ### Small tables

The concrete runs of the development start from these. -/

/-- A configuration with a complete seller and no VAT. -/
def plainSettings : Settings :=
  ⟨some 0, false, ⟨"Cloud", "123", "Tashkent", "", "2020", "", "", "", "", ""⟩⟩

/-- August 2026 and its first day. -/
def august : Month := ⟨2026, 8, by decide, by decide⟩

/-- A rate of a hundred. -/
def hundred : Numeric 18 4 := ⟨1000000, by decide⟩

/-- A machine of four processors measured on the first of August. -/
def measuredRow (account domainId projectId : String) : UsageSnapshot :=
  { vmsTotal := 1, vmsRunning := 1, vcpus := 4, ramMb := 0, ssdGib := 0, hddGib := 0
    unlabelledGib := 0, elasticIps := 0, snapshotGib := 0, backupSnapshotGib := 0
    takenOn := august.first, takenAt := 0, account := account, domainId := domainId
    projectId := projectId, projectName := "" }

/-- Tables with a price list for everyone, the requisites of one account and one measurement. -/
def pricedDb (account : String) (row : UsageSnapshot) : Db :=
  { Db.empty with
    tariffs := [⟨1, "Default price list", "UZS", "", true⟩]
    tariffRates := [⟨1, .vcpu, hundred⟩]
    usageSnapshots := SnapshotTable.empty.updateOrCreate row
    billingProfiles := [⟨account, account, "456", "", "", "", "", ""⟩] }

end OpenCloud
