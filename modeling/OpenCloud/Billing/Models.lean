import OpenCloud.Lib.Binary64
import OpenCloud.Lib.Tables
import OpenCloud.Common.Dates
import OpenCloud.Accounts.Backups

/-!
# The tables of billing

Snapshots store quantities, never money; an issued invoice is the one place where money is stored.

Two tables carry the constraints the database keeps on them.  A `SnapshotTable` has one row for a
project and day; `SnapshotTable.updateOrCreate` writes it.  An `InvoiceBook` is the invoices with
their lines: no two invoices share a number or an account and period, and every line belongs to an
invoice of the book.  `InvoiceBook.create` and `InvoiceBook.bulkCreate` are its inserts; they fail
where the database raises `IntegrityError`.  A line refers to its invoice by the number.
-/

namespace OpenCloud

/-- What can carry a price. -/
inductive Resource where
  | vcpu
  | ramGb
  | ssdGb
  | hddGb
  | elasticIp
  | snapshotGb
  deriving DecidableEq, Repr

namespace Resource

/-- The key stored in rate rows. -/
def value : Resource → String
  | vcpu => "vcpu"
  | ramGb => "ram_gb"
  | ssdGb => "ssd_gb"
  | hddGb => "hdd_gb"
  | elasticIp => "elastic_ip"
  | snapshotGb => "snapshot_gb"

def label : Resource → String
  | vcpu => "vCPU"
  | ramGb => "RAM, GB"
  | ssdGb => "SSD, GB"
  | hddGb => "HDD, GB"
  | elasticIp => "Elastic IP"
  | snapshotGb => "Snapshot storage, GB"

/-- The resources in the order of the enumeration. -/
def all : List Resource := [vcpu, ramGb, ssdGb, hddGb, elasticIp, snapshotGb]

/-- The resources in the order of their keys, in which `sorted` lists them. -/
def sorted : List Resource := all.insertionSort fun a b => a.value ≤ b.value

theorem mem_sorted (r : Resource) : r ∈ sorted :=
  (List.mem_insertionSort _).2 (by cases r <;> simp [all])

theorem sorted_nodup : sorted.Nodup := by decide

end Resource

/-- A price list.  An empty `account` means the default for every account. -/
structure Tariff where
  pk : ℕ
  name : String
  currency : String
  account : String
  isActive : Bool
  deriving DecidableEq

/-- The price of one resource per unit and month. -/
structure TariffRate where
  /-- Primary key of the tariff. -/
  tariff : ℕ
  resource : Resource
  pricePerMonth : Numeric 18 4
  deriving DecidableEq

/-- The figures of one measurement. -/
structure Measurements where
  vmsTotal : ℕ
  vmsRunning : ℕ
  vcpus : ℕ
  ramMb : ℕ
  ssdGib : ℕ
  hddGib : ℕ
  unlabelledGib : ℕ
  elasticIps : ℕ
  snapshotGib : ℕ
  /-- The part of `snapshotGib` that protection groups took. -/
  backupSnapshotGib : ℕ
  deriving DecidableEq

/-- What one project held on one day. -/
structure UsageSnapshot extends Measurements where
  takenOn : Date
  takenAt : Instant
  account : String
  domainId : String
  projectId : String
  projectName : String
  deriving DecidableEq

/-- The buyer's requisites. -/
structure BillingProfile where
  account : String
  legalName : String
  taxId : String
  address : String
  contract : String
  director : String
  email : String
  phone : String
  deriving DecidableEq

/-- The seller, as `BILLING_SELLER` configures it. -/
structure Seller where
  name : String
  taxId : String
  address : String
  bank : String
  bankAccount : String
  bankCode : String
  director : String
  accountant : String
  phone : String
  email : String
  deriving DecidableEq

/-- The buyer as a document names it. -/
structure Buyer where
  account : String
  name : String
  taxId : String
  address : String
  contract : String
  director : String
  email : String
  phone : String
  deriving DecidableEq

/-- An invoice.  The object a request holds may carry more decimals than the row that is
stored (`Invoice.saved`). -/
structure Invoice where
  number : String
  numberSeq : ℕ
  account : String
  domainId : String
  period : String
  periodFrom : Date
  periodTo : Date
  issuedAt : Instant
  issuedBy : String
  currency : String
  subtotal : ℚ
  vatRate : ℚ
  vatAmount : ℚ
  total : ℚ
  seller : Seller
  buyer : Buyer
  daysMeasured : ℕ
  daysInPeriod : ℕ
  deriving DecidableEq

/-- One frozen line of an issued invoice. -/
structure InvoiceLine where
  /-- The number of the invoice it belongs to. -/
  invoice : String
  resource : Resource
  label : String
  unit : String
  quantity : Numeric 18 2
  unitPrice : Numeric 18 4
  amount : Numeric 18 2
  deriving DecidableEq

namespace Invoice

/-- The row stored for an invoice: every decimal rounded to the scale of its column.  A value that
does not fit its column is refused. -/
def saved (inv : Invoice) : Option Invoice := do
  let subtotal ← Numeric.store 18 2 inv.subtotal
  let vatRate ← Numeric.store 5 2 inv.vatRate
  let vatAmount ← Numeric.store 18 2 inv.vatAmount
  let total ← Numeric.store 18 2 inv.total
  return { inv with subtotal := subtotal.val, vatRate := vatRate.val, vatAmount := vatAmount.val,
                    total := total.val }

/-- Two rows the unique constraints do not allow together: `number`, `(account, period)`. -/
def Clash (a b : Invoice) : Prop :=
  a.number = b.number ∨ (a.account = b.account ∧ a.period = b.period)

instance : DecidableRel Clash := fun _ _ => inferInstanceAs (Decidable (_ ∨ _))

theorem Clash.symm {a b : Invoice} (h : Clash a b) : Clash b a := by
  rcases h with h | ⟨h1, h2⟩
  · exact .inl h.symm
  · exact .inr ⟨h1.symm, h2.symm⟩

theorem saved_spec {inv row : Invoice} (h : inv.saved = some row) :
    row = { inv with subtotal := quantize 2 inv.subtotal, vatRate := quantize 2 inv.vatRate,
                     vatAmount := quantize 2 inv.vatAmount, total := quantize 2 inv.total } ∧
      |row.subtotal| < 10 ^ 16 ∧ |row.vatRate| < 10 ^ 3 ∧ |row.vatAmount| < 10 ^ 16 ∧
        |row.total| < 10 ^ 16 := by
  simp only [saved, Option.bind_eq_bind, Option.bind_eq_some_iff, Option.pure_def,
    Option.some.injEq] at h
  obtain ⟨s, hs, r, hr, v, hv, t, ht, rfl⟩ := h
  refine ⟨?_, s.abs_val_lt rfl, r.abs_val_lt rfl, v.abs_val_lt rfl, t.abs_val_lt rfl⟩
  rw [Numeric.val_of_store hs, Numeric.val_of_store hr, Numeric.val_of_store hv,
    Numeric.val_of_store ht]

end Invoice

/-- The table `usage_snapshots`: one row for a project and day. -/
structure SnapshotTable where
  rows : List UsageSnapshot
  /-- The unique constraint. -/
  unique : rows.Pairwise fun a b => ¬ (a.projectId = b.projectId ∧ a.takenOn = b.takenOn)

namespace SnapshotTable

/-- The table before the first measurement. -/
def empty : SnapshotTable := ⟨[], List.Pairwise.nil⟩

/-- The row of the same project and day. -/
def SameKey (row a : UsageSnapshot) : Prop := a.projectId = row.projectId ∧ a.takenOn = row.takenOn

instance (row : UsageSnapshot) : DecidablePred (SameKey row) :=
  fun _ => inferInstanceAs (Decidable (_ ∧ _))

/-- `UsageSnapshot.objects.update_or_create(project_id=…, taken_on=…, defaults=…)`, the defaults
being all the other columns. -/
def updateOrCreate (table : SnapshotTable) (row : UsageSnapshot) : SnapshotTable where
  rows := Table.upsert (SameKey row) row (fun _ => row) table.rows
  unique := Table.pairwise_upsert table.unique
    (fun a b ha hab => by rintro ⟨hp, hd⟩; exact hab ⟨ha.1.trans hp, ha.2.trans hd⟩)
    (fun a b hb hab => by rintro ⟨hp, hd⟩; exact hab ⟨hp.trans hb.1.symm, hd.trans hb.2.symm⟩)
    (fun a ha h => ha h)

theorem mem_updateOrCreate {table : SnapshotTable} {row a : UsageSnapshot} :
    a ∈ (table.updateOrCreate row).rows ↔ a = row ∨ (a ∈ table.rows ∧ ¬ SameKey row a) :=
  Table.mem_upsert_iff <| table.unique.imp fun hab ⟨ha, hb⟩ =>
    hab ⟨ha.1.trans hb.1.symm, ha.2.trans hb.2.symm⟩

end SnapshotTable

/-- The lines of an invoice, ordered by resource. -/
def linesIn (lines : List InvoiceLine) (number : String) : List InvoiceLine :=
  (lines.filter fun l => l.invoice = number).insertionSort
    fun a b => a.resource.value ≤ b.resource.value

/-- The tables `invoices` and `invoice_lines`, with what the database guarantees about them. -/
structure InvoiceBook where
  invoices : List Invoice
  lines : List InvoiceLine
  /-- The unique constraints. -/
  unique : invoices.Pairwise fun a b => ¬ Invoice.Clash a b
  /-- The foreign key of the lines. -/
  owned : ∀ l ∈ lines, ∃ inv ∈ invoices, inv.number = l.invoice

namespace InvoiceBook

/-- The book before the first invoice. -/
def empty : InvoiceBook := ⟨[], [], List.Pairwise.nil, by simp⟩

/-- `Invoice.objects.create`: the row is refused if it clashes with one of the book. -/
def create (book : InvoiceBook) (row : Invoice) : Option InvoiceBook :=
  if h : ∀ inv ∈ book.invoices, ¬ Invoice.Clash inv row then
    some
      { invoices := book.invoices ++ [row]
        lines := book.lines
        unique :=
          List.pairwise_append.2 ⟨book.unique, List.pairwise_singleton _ _, by simpa using h⟩
        owned := fun l hl =>
          let ⟨inv, hinv, hn⟩ := book.owned l hl
          ⟨inv, List.mem_append_left _ hinv, hn⟩ }
  else none

/-- `InvoiceLine.objects.bulk_create`: the lines are refused unless each belongs to an invoice. -/
def bulkCreate (book : InvoiceBook) (rows : List InvoiceLine) : Option InvoiceBook :=
  if h : ∀ l ∈ rows, ∃ inv ∈ book.invoices, inv.number = l.invoice then
    some
      { book with
        lines := book.lines ++ rows
        owned := fun l hl => (List.mem_append.1 hl).elim (book.owned l) (h l) }
  else none

/-- `invoice.lines.all()`. -/
def linesOf (book : InvoiceBook) (number : String) : List InvoiceLine := linesIn book.lines number

variable {book book' : InvoiceBook}

theorem create_eq_some {row : Invoice} (h : book.create row = some book') :
    (∀ inv ∈ book.invoices, ¬ Invoice.Clash inv row) ∧
      book'.invoices = book.invoices ++ [row] ∧ book'.lines = book.lines := by
  unfold create at h
  split_ifs at h with hc
  obtain rfl := Option.some.inj h
  exact ⟨hc, rfl, rfl⟩

theorem bulkCreate_eq_some {rows : List InvoiceLine} (h : book.bulkCreate rows = some book') :
    book'.invoices = book.invoices ∧ book'.lines = book.lines ++ rows := by
  unfold bulkCreate at h
  split_ifs at h
  obtain rfl := Option.some.inj h
  exact ⟨rfl, rfl⟩

theorem eq_of_number {a b : Invoice} (ha : a ∈ book.invoices) (hb : b ∈ book.invoices)
    (h : a.number = b.number) : a = b := by
  by_contra hne
  have : Std.Symm fun x y => ¬ Invoice.Clash x y := ⟨fun _ _ hxy hyx => hxy hyx.symm⟩
  exact book.unique.forall ha hb hne (.inl h)

end InvoiceBook

end OpenCloud
