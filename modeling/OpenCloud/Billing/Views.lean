import OpenCloud.Billing.Invoices
import OpenCloud.Common.Tenancy

/-!
# The invoice endpoints of the cabinet

An administrator sees and issues the invoices of the account `account_domain` gives for the
session.  A request answers with a document or a failure, and may change the tables; the day and
the moment it arrives are arguments.

The month is the one read from the request.

## Main results

* `adminInvoicePost_cases` : an issue request either changes no table of invoices or issues.
-/

namespace OpenCloud

/-- A document with the account and month it was asked for. -/
structure InvoiceReply where
  data : Document
  account : String
  period : String
  deriving DecidableEq

/-- Why a draft cannot be issued, checked in this order. -/
def refusal (document : Document) : Option AppError :=
  if document.missingRequisites ≠ [] then
    some ⟨"Cannot issue: missing " ++ join ", " document.missingRequisites,
      "requisites_incomplete", 409⟩
  else if document.daysMeasured = 0 then
    some ⟨"Nothing was measured in that month, so there is nothing to invoice.",
      "nothing_to_invoice", 409⟩
  else if ¬ document.lines.any DocumentLine.priced then
    some ⟨"No priced resources in that month — set a price list first.",
      "tariff_not_configured", 409⟩
  else none

/-- The month of the request has not begun. -/
def notStarted : AppError := ⟨"That month has not started yet.", "invalid_request", 400⟩

section Cabinet

variable (c : Casing) (s : Settings) (cloud : Cloud) (today : Date) (now : Instant)
  (user : CabinetUser) (m : Month) (db : Db)

/-- `AdminInvoiceView.get`: the issued document if there is one, a live draft otherwise. -/
def adminInvoiceGet : Except Failure InvoiceReply :=
  match accountDomain c cloud user with
  | .error err => .error (.app err)
  | .ok (account, domainId) =>
    let document := match findInvoice c db.book.invoices account m.label with
      | some issued => serialize s issued (db.book.linesOf issued.number)
      | none => draft c s db account domainId m
    .ok ⟨document, account, m.label⟩

/-- The readable name of the issuer. -/
def issuer : String := orElse user.username user.userId

/-- `AdminInvoiceView.post`: issue the month. -/
def adminInvoicePost : Except Failure InvoiceReply × Db :=
  match accountDomain c cloud user with
  | .error err => (.error (.app err), db)
  | .ok (account, domainId) =>
    if today < m.first then (.error (.app notStarted), db)
    else match refusal (draft c s db account domainId m) with
      | some err => (.error (.app err), db)
      | none =>
        match issue c s db now account domainId m (issuer user) with
        | .error err => (.error (.db err), db)
        | .ok (issued, book) =>
          (.ok ⟨issued, account, m.label⟩, (db.setBook book).audit
            { username := orElse user.username "anonymous", account := user.account
              action := "invoice.issue", resourceType := "invoice"
              resourceId := issued.number.getD "", resourceName := account ++ " " ++ m.label
              outcome := .success, errorCode := ""
              detail := [("total", .num issued.total), ("currency", .text issued.currency)] })

/-- An entry of the list of issued documents. -/
structure InvoiceEntry where
  number : String
  period : String
  issuedAt : Instant
  issuedBy : String
  currency : String
  subtotal : Double
  vatAmount : Double
  total : Double
  deriving DecidableEq

/-- The entry of an invoice. -/
def Invoice.entry (inv : Invoice) : InvoiceEntry where
  number := inv.number
  period := inv.period
  issuedAt := inv.issuedAt
  issuedBy := inv.issuedBy
  currency := inv.currency
  subtotal := .ofRat inv.subtotal
  vatAmount := .ofRat inv.vatAmount
  total := .ofRat inv.total

/-- What `AdminInvoiceListView` answers. -/
structure InvoiceListReply where
  data : List InvoiceEntry
  account : String
  total : ℕ
  deriving DecidableEq

/-- `AdminInvoiceListView.get`: the account's issued documents, newest first. -/
def adminInvoiceList : Except Failure InvoiceListReply :=
  match accountDomain c cloud user with
  | .error err => .error (.app err)
  | .ok (account, _) =>
    let invoices := (db.book.invoices.filter fun inv => c.iexact inv.account account).insertionSort
      fun a b => b.period ≤ a.period
    .ok ⟨invoices.map Invoice.entry, account, invoices.length⟩

end Cabinet

/-! ### What an issue request does -/

section

variable {c : Casing} {s : Settings} {cloud : Cloud} {today : Date} {now : Instant}
  {user : CabinetUser} {m : Month} {db db' : Db} {answer : Except Failure InvoiceReply}

/-- A request that answers a document issued it; one that fails changes nothing. -/
theorem adminInvoicePost_cases (h : adminInvoicePost c s cloud today now user m db =
    (answer, db')) :
    (∃ err, answer = .error err ∧ db' = db) ∨
    ∃ account domainId issued book, accountDomain c cloud user = .ok (account, domainId) ∧
      refusal (draft c s db account domainId m) = none ∧
      issue c s db now account domainId m (issuer user) = .ok (issued, book) ∧
      answer = .ok ⟨issued, account, m.label⟩ ∧ db'.book = book := by
  unfold adminInvoicePost at h
  split at h
  · exact .inl ⟨_, (Prod.mk.inj h).1.symm, (Prod.mk.inj h).2.symm⟩
  · rename_i account domainId hscope
    split at h
    · exact .inl ⟨_, (Prod.mk.inj h).1.symm, (Prod.mk.inj h).2.symm⟩
    · split at h
      · exact .inl ⟨_, (Prod.mk.inj h).1.symm, (Prod.mk.inj h).2.symm⟩
      · rename_i hrefusal
        split at h
        · exact .inl ⟨_, (Prod.mk.inj h).1.symm, (Prod.mk.inj h).2.symm⟩
        · rename_i issued book hissue
          obtain ⟨rfl, rfl⟩ := Prod.mk.inj h
          exact .inr ⟨account, domainId, issued, book, hscope, hrefusal, hissue, rfl, rfl⟩

end

end OpenCloud
