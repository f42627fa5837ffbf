import OpenCloud.Billing.Rates
import Mathlib.Data.List.Lex

/-!
# Building and issuing an invoice

A draft is computed from the stored quantities every time it is asked for.  Issuing copies it into
the tables of invoices, under the next number of the year.

Figures travel as floats between the steps, as they do in the source: `draft` puts floats into the
document, and issuing reads each back as the decimal it prints (`Double.decimal`).

The functions take the month of the document where the source takes its first and last day and its
label; every caller passes those of one month.

## Main results

* `issue_cases` : an issue that succeeds either finds an invoice of the account and month, or adds
  one row with the next number and the lines of the draft.
* `linesIn_of_fresh` : the lines of the new invoice are the ones just written.
-/

namespace OpenCloud

/-- `UNIT`: what the quantity column counts. -/
def Resource.unit : Resource → String
  | vcpu => "vCPU"
  | ramGb => "ГБ"
  | ssdGb => "ГБ"
  | hddGb => "ГБ"
  | elasticIp => "адрес"
  | snapshotGb => "ГБ"

/-- `vat_rate()`. -/
def vatRate (s : Settings) : ℚ := s.billingVatRate.getD 0

/-- Subtotal, VAT and total. -/
structure VatSplit where
  subtotal : ℚ
  vat : ℚ
  total : ℚ
  deriving DecidableEq

/-- The split of an amount, according to the configured side. -/
def splitVat (s : Settings) (grossOrNet : ℚ) : VatSplit :=
  let rate := vatRate s / 100
  if rate = 0 then
    let amount := money grossOrNet
    ⟨amount, 0, amount⟩
  else if s.billingPricesIncludeVat then
    let total := money grossOrNet
    let subtotal := money (total / (1 + rate))
    ⟨subtotal, money (total - subtotal), total⟩
  else
    let subtotal := money grossOrNet
    let vat := money (subtotal * rate)
    ⟨subtotal, vat, money (subtotal + vat)⟩

/-- The buyer of an account; the profiles are in the order of their keys. -/
def buyer (c : Casing) (profiles : List BillingProfile) (account : String) : Buyer :=
  match profiles.find? fun p => c.iexact p.account account with
  | none => ⟨account, orElse "" account, "", "", "", "", "", ""⟩
  | some p => ⟨account, orElse p.legalName account, p.taxId, p.address, p.contract, p.director,
      p.email, p.phone⟩

/-- What the document still lacks to be valid. -/
def missingRequisites (seller : Seller) (buyer : Buyer) : List String :=
  let missing := [(seller.name, "seller name"), (seller.taxId, "seller ИНН"),
    (seller.address, "seller address"), (seller.bankAccount, "seller bank account"),
    (buyer.name, "buyer name"), (buyer.taxId, "buyer ИНН")].filter fun e => strip e.1 = ""
  missing.map Prod.snd

/-- A line of a document. -/
structure DocumentLine where
  resource : Resource
  label : String
  unit : String
  quantity : Double
  /-- Absent on an issued document. -/
  unitDays : Option Double
  days : ℕ
  daysInPeriod : ℕ
  unitPrice : Double
  amount : Double
  priced : Bool
  deriving DecidableEq

inductive DocumentStatus where
  | draft
  | issued
  deriving DecidableEq, Repr

/-- A draft or an issued invoice, as one view renders both.  `number`, `issuedAt` and `issuedBy` are
those of an issued one; `issuedAt` stands for its text. -/
structure Document where
  status : DocumentStatus
  number : Option String
  issuedAt : Option Instant
  issuedBy : Option String
  account : String
  period : String
  periodFrom : String
  periodTo : String
  currency : String
  lines : List DocumentLine
  subtotal : Double
  vatRate : Double
  vatAmount : Double
  vatIncludedInPrices : Bool
  total : Double
  seller : Seller
  buyer : Buyer
  daysMeasured : ℕ
  daysInPeriod : ℕ
  missingRequisites : List String
  unpriced : List String
  deriving DecidableEq

/-- The measurements a draft prices. -/
def draftRows (snapshots : SnapshotTable) (domainId : String) (m : Month) : List UsageSnapshot :=
  snapshots.rows.filter fun row => row.domainId = domainId ∧ m.Covers row.takenOn

section Draft

variable (c : Casing) (s : Settings) (db : Db) (account domainId : String) (m : Month)

/-- `cost_of` for the rows of the draft. -/
def draftCost : Cost CostLine :=
  costOf db.accountSettings (draftRows db.usageSnapshots domainId m)
    (rateMap db.tariffRates (resolveTariff c db.tariffs account))

/-- A line of the draft. -/
def CostLine.draftLine (days daysInPeriod : ℕ) (line : CostLine) : DocumentLine where
  resource := line.resource
  label := line.resource.label
  unit := line.resource.unit
  quantity := line.quantity
  unitDays := some line.unitDays
  days := days
  daysInPeriod := daysInPeriod
  unitPrice := line.unitPrice
  amount := line.cost
  priced := line.priced

/-- The lines of the draft. -/
def draftLines : List DocumentLine :=
  let cost := draftCost c db account domainId m
  cost.lines.map (CostLine.draftLine cost.days m.days)

/-- The sum of the priced lines, each figure read as the decimal it prints. -/
def billableSum (lines : List DocumentLine) : ℚ :=
  ((lines.filter DocumentLine.priced).map fun line => line.amount.decimal).sum

/-- The invoice as it would be issued today, computed from stored quantities. -/
def draft : Document :=
  let tariff := resolveTariff c db.tariffs account
  let lines := draftLines c db account domainId m
  let split := splitVat s (billableSum lines)
  let sellerDetails := s.billingSeller
  let buyerDetails := buyer c db.billingProfiles account
  { status := .draft
    number := none
    issuedAt := none
    issuedBy := none
    account := account
    period := m.label
    periodFrom := m.first.toStr
    periodTo := m.last.toStr
    currency := match tariff with
      | some t => t.currency
      | none => "UZS"
    lines := lines
    subtotal := .ofRat split.subtotal
    vatRate := .ofRat (vatRate s)
    vatAmount := .ofRat split.vat
    vatIncludedInPrices := s.billingPricesIncludeVat
    total := .ofRat split.total
    seller := sellerDetails
    buyer := buyerDetails
    daysMeasured := (draftCost c db account domainId m).days
    daysInPeriod := m.days
    missingRequisites := missingRequisites sellerDetails buyerDetails
    unpriced := (lines.filter fun line => !line.priced).map DocumentLine.label }

end Draft

/-- A stored line, as the document shows it. -/
def InvoiceLine.line (inv : Invoice) (l : InvoiceLine) : DocumentLine where
  resource := l.resource
  label := l.label
  unit := l.unit
  quantity := .ofRat l.quantity.val
  unitDays := none
  days := inv.daysMeasured
  daysInPeriod := inv.daysInPeriod
  unitPrice := .ofRat l.unitPrice.val
  amount := .ofRat l.amount.val
  priced := true

/-- An issued invoice in the same shape as a draft; `lines` are its lines in the table. -/
def serialize (s : Settings) (inv : Invoice) (lines : List InvoiceLine) : Document where
  status := .issued
  number := some inv.number
  issuedAt := some inv.issuedAt
  issuedBy := some inv.issuedBy
  account := inv.account
  period := inv.period
  periodFrom := inv.periodFrom.toStr
  periodTo := inv.periodTo.toStr
  currency := inv.currency
  lines := lines.map (InvoiceLine.line inv)
  subtotal := .ofRat inv.subtotal
  vatRate := .ofRat inv.vatRate
  vatAmount := .ofRat inv.vatAmount
  vatIncludedInPrices := s.billingPricesIncludeVat
  total := .ofRat inv.total
  seller := inv.seller
  buyer := inv.buyer
  daysMeasured := inv.daysMeasured
  daysInPeriod := inv.daysInPeriod
  missingRequisites := []
  unpriced := []

/-- `f'СФ-{year}-'`. -/
def numberPrefix (year : ℕ) : List Char := "СФ-".toList ++ (numeral year ++ ['-'])

/-- `f'СФ-{year}-{seq:04d}'`. -/
def numberOf (year seq : ℕ) : String := String.ofList (numberPrefix year ++ padded 4 seq)

/-- The invoices whose number starts with that of the year. -/
def numberedIn (year : ℕ) (invoices : List Invoice) : List Invoice :=
  invoices.filter fun inv => (numberPrefix year).isPrefixOf inv.number.toList

/-- Sequential within the year. -/
def nextNumber (invoices : List Invoice) (year : ℕ) : ℕ × String :=
  let last := Table.firstBy (fun a b : Invoice => b.numberSeq ≤ a.numberSeq)
    (numberedIn year invoices)
  let seq := (last.map Invoice.numberSeq).getD 0 + 1
  (seq, numberOf year seq)

/-- `Meta.ordering` of `Invoice`: newest period first, then by account. -/
def Invoice.le (a b : Invoice) : Prop :=
  b.period < a.period ∨ (a.period = b.period ∧ a.account ≤ b.account)

instance : DecidableRel Invoice.le := fun _ _ => inferInstanceAs (Decidable (_ ∨ _))

/-- The invoice of an account and month, the account's case ignored. -/
def findInvoice (c : Casing) (invoices : List Invoice) (account period : String) : Option Invoice :=
  Table.firstBy Invoice.le
    (invoices.filter fun inv => c.iexact inv.account account ∧ inv.period = period)

/-- The invoice made of a draft: each figure as the decimal it prints. -/
def invoiceOf (prepared : Document) (now : Instant) (domainId : String) (m : Month)
    (issuedBy : String) (number : String) (seq : ℕ) : Invoice where
  number := number
  numberSeq := seq
  account := prepared.account
  domainId := domainId
  period := m.label
  periodFrom := m.first
  periodTo := m.last
  issuedAt := now
  issuedBy := issuedBy
  currency := prepared.currency
  subtotal := prepared.subtotal.decimal
  vatRate := prepared.vatRate.decimal
  vatAmount := prepared.vatAmount.decimal
  total := prepared.total.decimal
  seller := prepared.seller
  buyer := prepared.buyer
  daysMeasured := prepared.daysMeasured
  daysInPeriod := prepared.daysInPeriod

/-- The row of a line of the draft. -/
def invoiceLineOf (number : String) (line : DocumentLine) : Option InvoiceLine := do
  let quantity ← Numeric.store 18 2 line.quantity.decimal
  let unitPrice ← Numeric.store 18 4 line.unitPrice.decimal
  let amount ← Numeric.store 18 2 line.amount.decimal
  return { invoice := number, resource := line.resource, label := line.label, unit := line.unit,
           quantity := quantity, unitPrice := unitPrice, amount := amount }

/-- The rows of the priced lines of a draft. -/
def invoiceLinesOf (number : String) (prepared : Document) : Option (List InvoiceLine) :=
  (prepared.lines.filter DocumentLine.priced).mapM (invoiceLineOf number)

/-- The attempts to insert the invoice under the next number; it is `make number seq`. -/
def allocate (book : InvoiceBook) (year : ℕ) (make : String → ℕ → Invoice) :
    ℕ → Except DbError (Invoice × InvoiceBook)
  | 0 => .error .integrity
  | attempts + 1 =>
    let (seq, number) := nextNumber book.invoices year
    match (make number seq).saved with
    | none => .error .data
    | some row =>
      match book.create row with
      | some book' => .ok (make number seq, book')
      | none => allocate book year make attempts

section Issue

variable (c : Casing) (s : Settings) (db : Db) (now : Instant) (account domainId : String)
  (m : Month) (issuedBy : String)

/-- Freeze the draft into a numbered document.  A failure leaves the tables as they were. -/
def issue : Except DbError (Document × InvoiceBook) :=
  match findInvoice c db.book.invoices account m.label with
  | some existing => .ok (serialize s existing (db.book.linesOf existing.number), db.book)
  | none =>
    let prepared := draft c s db account domainId m
    match allocate db.book m.year (invoiceOf prepared now domainId m issuedBy) 5 with
    | .error e => .error e
    | .ok (invoice, book) =>
      match invoiceLinesOf invoice.number prepared with
      | none => .error .data
      | some rows =>
        match book.bulkCreate rows with
        | none => .error .integrity
        | some book' => .ok (serialize s invoice (book'.linesOf invoice.number), book')

end Issue

/-! ### The figures of a document -/

theorem hasDecimals_money (x : ℚ) : HasDecimals 2 (money x) := hasDecimals_quantize 2 x

theorem money_eq {x : ℚ} (h : HasDecimals 2 x) : money x = x := h.quantize_eq

theorem hasDecimals_splitVat (s : Settings) (x : ℚ) : HasDecimals 2 (splitVat s x).subtotal ∧
    HasDecimals 2 (splitVat s x).vat ∧ HasDecimals 2 (splitVat s x).total := by
  unfold splitVat
  dsimp only
  split_ifs
  · exact ⟨hasDecimals_money _, .zero, hasDecimals_money _⟩
  · exact ⟨hasDecimals_money _, hasDecimals_money _, hasDecimals_money _⟩
  · exact ⟨hasDecimals_money _, hasDecimals_money _, hasDecimals_money _⟩

theorem splitVat_closes (s : Settings) (x : ℚ) :
    (splitVat s x).subtotal + (splitVat s x).vat = (splitVat s x).total := by
  unfold splitVat
  dsimp only
  split_ifs
  · exact add_zero _
  · dsimp only
    rw [money_eq ((hasDecimals_money x).sub (hasDecimals_money _))]
    exact add_sub_cancel _ _
  · exact (money_eq ((hasDecimals_money _).add (hasDecimals_money _))).symm

theorem subtotal_splitVat {s : Settings} {x : ℚ} (hx : HasDecimals 2 x)
    (h : s.billingPricesIncludeVat = false ∨ vatRate s = 0) : (splitVat s x).subtotal = x := by
  unfold splitVat
  dsimp only
  split_ifs with hrate hside
  · exact money_eq hx
  · rcases h with h | h
    · rw [h] at hside
      cases hside
    · exact absurd (by rw [h, zero_div]) hrate
  · exact money_eq hx

theorem forall₂_of_mapM {α β : Type} {f : α → Option β} {as : List α} {bs : List β}
    (h : as.mapM f = some bs) : List.Forall₂ (fun a b => f a = some b) as bs := by
  induction as generalizing bs with
  | nil =>
    obtain rfl : bs = [] := by simpa using h.symm
    exact .nil
  | cons a as ih =>
    rw [List.mapM_cons] at h
    simp only [Option.bind_eq_bind, Option.bind_eq_some_iff, Option.pure_def,
      Option.some.injEq] at h
    obtain ⟨b, hb, bs', hbs, rfl⟩ := h
    exact .cons hb (ih hbs)

theorem exists_of_mem_right {α β : Type} {R : α → β → Prop} {as : List α} {bs : List β}
    (h : List.Forall₂ R as bs) {b : β} (hb : b ∈ bs) : ∃ a ∈ as, R a b := by
  induction h with
  | nil => cases hb
  | @cons a b' as bs hab _ ih =>
    rcases List.mem_cons.1 hb with rfl | hb
    · exact ⟨a, by simp, hab⟩
    · obtain ⟨a', ha', hR⟩ := ih hb
      exact ⟨a', by simp [ha'], hR⟩

theorem invoiceLineOf_spec {number : String} {line : DocumentLine} {row : InvoiceLine}
    (h : invoiceLineOf number line = some row) :
    row.invoice = number ∧ row.resource = line.resource ∧ row.label = line.label ∧
      row.unit = line.unit ∧ row.quantity.val = quantize 2 line.quantity.decimal ∧
      row.unitPrice.val = quantize 4 line.unitPrice.decimal ∧
      row.amount.val = quantize 2 line.amount.decimal := by
  simp only [invoiceLineOf, Option.bind_eq_bind, Option.bind_eq_some_iff, Option.pure_def,
    Option.some.injEq] at h
  obtain ⟨q, hq, p, hp, a, ha, rfl⟩ := h
  exact ⟨rfl, rfl, rfl, rfl, Numeric.val_of_store hq, Numeric.val_of_store hp,
    Numeric.val_of_store ha⟩

theorem forall₂_invoiceLinesOf {number : String} {prepared : Document} {rows : List InvoiceLine}
    (h : invoiceLinesOf number prepared = some rows) :
    List.Forall₂ (fun line row => invoiceLineOf number line = some row)
      (prepared.lines.filter DocumentLine.priced) rows :=
  forall₂_of_mapM h

theorem invoice_of_mem_invoiceLinesOf {number : String} {prepared : Document}
    {rows : List InvoiceLine} (h : invoiceLinesOf number prepared = some rows) {row : InvoiceLine}
    (hrow : row ∈ rows) : row.invoice = number := by
  obtain ⟨line, -, hline⟩ := exists_of_mem_right (forall₂_invoiceLinesOf h) hrow
  exact (invoiceLineOf_spec hline).1

theorem allocate_eq_ok {book book' : InvoiceBook} {year attempts : ℕ} {make : String → ℕ → Invoice}
    {inv : Invoice} (h : allocate book year make attempts = .ok (inv, book')) :
    inv = make (nextNumber book.invoices year).2 (nextNumber book.invoices year).1 ∧
      ∃ row, inv.saved = some row ∧ book.create row = some book' := by
  induction attempts with
  | zero => cases h
  | succ attempts ih =>
    simp only [allocate] at h
    split at h
    · cases h
    · rename_i row hsaved
      split at h
      · rename_i book₁ hcreate
        obtain ⟨rfl, rfl⟩ := Prod.mk.inj (Except.ok.inj h)
        exact ⟨rfl, row, hsaved, hcreate⟩
      · exact ih h

section

variable {c : Casing} {s : Settings} {db : Db} {now : Instant} {account domainId : String}
  {m : Month} {issuedBy : String} {doc : Document} {book' : InvoiceBook}

/-- An issue that succeeds either finds an invoice of the account and month, or adds one row, that
of the draft under the next number, with the rows of its priced lines. -/
theorem issue_cases (h : issue c s db now account domainId m issuedBy = .ok (doc, book')) :
    (∃ inv, findInvoice c db.book.invoices account m.label = some inv ∧
      doc = serialize s inv (db.book.linesOf inv.number) ∧ book' = db.book) ∨
    (findInvoice c db.book.invoices account m.label = none ∧ ∃ inv row rows,
      inv = invoiceOf (draft c s db account domainId m) now domainId m issuedBy
        (nextNumber db.book.invoices m.year).2 (nextNumber db.book.invoices m.year).1 ∧
      inv.saved = some row ∧ (∀ old ∈ db.book.invoices, ¬ Invoice.Clash old row) ∧
      invoiceLinesOf inv.number (draft c s db account domainId m) = some rows ∧
      book'.invoices = db.book.invoices ++ [row] ∧ book'.lines = db.book.lines ++ rows ∧
      doc = serialize s inv (book'.linesOf inv.number)) := by
  unfold issue at h
  split at h
  · rename_i inv hfind
    obtain ⟨rfl, rfl⟩ := Prod.mk.inj (Except.ok.inj h)
    exact .inl ⟨inv, hfind, rfl, rfl⟩
  · rename_i hfind
    dsimp only at h
    split at h
    · cases h
    · rename_i inv book halloc
      obtain ⟨hinv, row, hsaved, hcreate⟩ := allocate_eq_ok halloc
      obtain ⟨hclash, hinvoices, hlines⟩ := InvoiceBook.create_eq_some hcreate
      split at h
      · cases h
      · rename_i rows hrows
        split at h
        · cases h
        · rename_i book₂ hbulk
          obtain ⟨rfl, rfl⟩ := Prod.mk.inj (Except.ok.inj h)
          obtain ⟨hinvoices₂, hlines₂⟩ := InvoiceBook.bulkCreate_eq_some hbulk
          exact .inr ⟨hfind, inv, row, rows, hinv, hsaved, hclash, hrows,
            hinvoices₂.trans hinvoices, by rw [hlines₂, hlines], rfl⟩

theorem findInvoice_spec {invoices : List Invoice} {account period : String} {inv : Invoice}
    (h : findInvoice c invoices account period = some inv) :
    inv ∈ invoices ∧ c.iexact inv.account account ∧ inv.period = period := by
  obtain ⟨hmem, hkey⟩ := List.mem_filter.1 (Table.mem_of_firstBy h)
  exact ⟨hmem, by simpa using hkey⟩

theorem findInvoice_eq_none_iff {invoices : List Invoice} {account period : String} :
    findInvoice c invoices account period = none ↔
      ∀ inv ∈ invoices, ¬ (c.iexact inv.account account ∧ inv.period = period) := by
  rw [findInvoice, Table.firstBy_eq_none_iff, List.filter_eq_nil_iff]
  simp only [decide_eq_true_eq]

end

end OpenCloud
