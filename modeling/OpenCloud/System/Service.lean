import OpenCloud.Lib.Runs
import OpenCloud.Billing.Collector
import OpenCloud.Platform.Scope

/-!
# The service over time

A `World` is the tables with the configuration.  Requests of operators and of account administrators
arrive in any order, between them measurements are taken, price lists, requisites and settings are
written (to anything) and the configuration changes; the cloud answers each request as it
likes.  `service` is the system of these steps.

The label of a step carries the request, the answer and, for a request that issued a document, what
it was issued for.

## Main results

* `service_cases` : a step leaves the invoices alone, finds an invoice, or adds one.
* `recorded_of_run` : each invoice goes back to the first document the run issued under its name for
  its month.
-/

namespace OpenCloud

/-- The tables and the configuration. -/
structure World where
  db : Db
  settings : Settings

/-- What the service is asked, and what else happens to it. -/
inductive Request where
  /-- The daily measurement. -/
  | capture (cloud : Cloud) (now : Instant) (takenOn : Date)
  | accountInvoicePost (today : Date) (now : Instant) (email name : String) (m : Month)
  | adminInvoicePost (cloud : Cloud) (today : Date) (now : Instant) (user : CabinetUser) (m : Month)
  | adminInvoiceGet (cloud : Cloud) (user : CabinetUser) (m : Month)
  | adminInvoiceList (cloud : Cloud) (user : CabinetUser)
  /-- A call of `issue` by itself. -/
  | issue (now : Instant) (account domainId : String) (m : Month) (issuedBy : String)
  /-- Price lists, requisites and account settings become these. -/
  | write (accountSettings : List AccountSettings) (tariffs : List Tariff)
      (tariffRates : List TariffRate) (billingProfiles : List BillingProfile)
  /-- The configuration becomes this. -/
  | configure (settings : Settings)

/-- What a request is answered. -/
inductive Answer where
  | none
  | document (answer : Except Failure InvoiceReply)
  | list (answer : Except Failure InvoiceListReply)

/-- What a document is issued for. -/
structure IssueCall where
  account : String
  domainId : String
  month : Month
  deriving DecidableEq

/-- What a request to issue is for, as the code resolves it. -/
def issueCall (c : Casing) (db : Db) : Request → Option IssueCall
  | .accountInvoicePost _ _ _ name m =>
    (resolveAccount c db.usageSnapshots name).toOption.map fun e => ⟨e.1, e.2, m⟩
  | .adminInvoicePost cloud _ _ user m =>
    (accountDomain c cloud user).toOption.map fun e => ⟨e.1, e.2, m⟩
  | .issue _ account domainId m _ => some ⟨account, domainId, m⟩
  | _ => none

/-- The answer to a request, and the world after it. -/
def serve (c : Casing) (w : World) : Request → Answer × World
  | .capture cloud now takenOn =>
    match capture c cloud now takenOn w.db.usageSnapshots with
    | .error _ => (.none, w)
    | .ok (table, _) => (.none, { w with db := { w.db with usageSnapshots := table } })
  | .accountInvoicePost today now email name m =>
    let (answer, db) := accountInvoicePost c w.settings name m w.db today now email
    (.document answer, { w with db := db })
  | .adminInvoicePost cloud today now user m =>
    let (answer, db) := adminInvoicePost c w.settings cloud today now user m w.db
    (.document answer, { w with db := db })
  | .adminInvoiceGet cloud user m =>
    (.document (adminInvoiceGet c w.settings cloud user m w.db), w)
  | .adminInvoiceList cloud user => (.list (adminInvoiceList c cloud user w.db), w)
  | .issue now account domainId m issuedBy =>
    match issue c w.settings w.db now account domainId m issuedBy with
    | .error err => (.document (.error (.db err)), w)
    | .ok (doc, book) =>
      (.document (.ok ⟨doc, account, m.label⟩), { w with db := w.db.setBook book })
  | .write accountSettings tariffs tariffRates billingProfiles =>
    (.none, { w with db := { w.db with
      accountSettings := accountSettings, tariffs := tariffs, tariffRates := tariffRates
      billingProfiles := billingProfiles } })
  | .configure settings => (.none, { w with settings := settings })

/-- What a served request issued a document for. -/
def issuedFor (c : Casing) (db : Db) (request : Request) : Answer → Option IssueCall
  | .document (.ok _) => issueCall c db request
  | _ => none

/-- A request with its answer and what it issued a document for. -/
structure Served where
  request : Request
  answer : Answer
  issued : Option IssueCall

/-- The service. -/
def service (c : Casing) : System World Served where
  step w e w' := serve c w e.request = (e.answer, w') ∧
    e.issued = issuedFor c w.db e.request e.answer

section Cases

variable {c : Casing} {w w' : World} {e : Served}

/-- A request that issued a document for `i` found the invoice of that name and month. -/
def Finds (c : Casing) (w w' : World) (e : Served) (i : IssueCall) : Prop :=
  ∃ inv reply, e.issued = some i ∧
    findInvoice c w.db.book.invoices i.account i.month.label = some inv ∧
    e.answer = .document (.ok reply) ∧
    reply.data = serialize w.settings inv (w.db.book.linesOf inv.number) ∧ w'.db.book = w.db.book

/-- A request that issued a document for `i` added an invoice, under a number no line had. -/
def Adds (c : Casing) (w w' : World) (e : Served) (i : IssueCall) : Prop :=
  ∃ row reply, e.issued = some i ∧
    findInvoice c w.db.book.invoices i.account i.month.label = none ∧
    e.answer = .document (.ok reply) ∧ reply.data.number = some row.number ∧
    row.account = i.account ∧ row.domainId = i.domainId ∧ row.period = i.month.label ∧
    (∀ old ∈ w.db.book.invoices, old.number ≠ row.number) ∧
    w'.db.book.invoices = w.db.book.invoices ++ [row] ∧
    ∃ rows, (∀ l ∈ rows, l.invoice = row.number) ∧ w'.db.book.lines = w.db.book.lines ++ rows

/-- What an issue does, as a step of the service. -/
theorem finds_or_adds {now : Instant} {i : IssueCall} {issuedBy : String} (reply : InvoiceReply)
    (hissue : issue c w.settings w.db now i.account i.domainId i.month issuedBy =
      .ok (reply.data, w'.db.book)) (hissued : e.issued = some i)
    (hanswer : e.answer = .document (.ok reply)) : Finds c w w' e i ∨ Adds c w w' e i := by
  rcases issue_cases hissue with ⟨inv, hfind, hdoc, hbook⟩ | ⟨hnone, inv, row, rows, hinv, hsaved,
    hclash, hrows, hinvoices, hlines, hdoc⟩
  · exact .inl ⟨inv, reply, hissued, hfind, hanswer, hdoc, hbook⟩
  · have hrow := (Invoice.saved_spec hsaved).1
    have hnumber : row.number = inv.number := by rw [hrow]
    refine .inr ⟨row, reply, hissued, hnone, hanswer, ?_, ?_, ?_, ?_, ?_, hinvoices, rows, ?_,
      hlines⟩
    · rw [hdoc, hnumber]
      rfl
    · rw [hrow, hinv]
      rfl
    · rw [hrow, hinv]
      rfl
    · rw [hrow, hinv]
      rfl
    · exact fun old hold heq => hclash old hold (.inl heq)
    · intro l hl
      rw [hnumber]
      exact invoice_of_mem_invoiceLinesOf hrows hl

/-- A step leaves the invoices alone, finds an invoice, or adds one. -/
theorem service_cases (h : (service c).step w e w') :
    (e.issued = none ∧ w'.db.book = w.db.book) ∨ ∃ i, Finds c w w' e i ∨ Adds c w w' e i := by
  obtain ⟨hserve, hissued⟩ := h
  obtain ⟨request, answer, issued⟩ := e
  cases request with
  | capture cloud now takenOn =>
    simp only [serve] at hserve
    split at hserve <;> obtain ⟨rfl, rfl⟩ := Prod.mk.inj hserve <;> exact .inl ⟨hissued, rfl⟩
  | accountInvoicePost today now email name m =>
    rcases hpost : accountInvoicePost c w.settings name m w.db today now email with ⟨reply, db'⟩
    simp only [serve, hpost] at hserve
    obtain ⟨rfl, rfl⟩ := Prod.mk.inj hserve
    rcases accountInvoicePost_cases hpost with ⟨err, rfl, hbook⟩ |
      ⟨account, domainId, doc, book, hscope, -, hissue, rfl, hbook⟩
    · exact .inl ⟨hissued, hbook⟩
    · refine .inr ⟨⟨account, domainId, m⟩, finds_or_adds ⟨doc, account, m.label⟩
        (hbook ▸ hissue) (hissued.trans ?_) rfl⟩
      simp [issuedFor, issueCall, hscope, Except.toOption]
  | adminInvoicePost cloud today now user m =>
    rcases hpost : adminInvoicePost c w.settings cloud today now user m w.db with ⟨reply, db'⟩
    simp only [serve, hpost] at hserve
    obtain ⟨rfl, rfl⟩ := Prod.mk.inj hserve
    rcases adminInvoicePost_cases hpost with ⟨err, rfl, rfl⟩ |
      ⟨account, domainId, doc, book, hscope, -, hissue, rfl, hbook⟩
    · exact .inl ⟨hissued, rfl⟩
    · refine .inr ⟨⟨account, domainId, m⟩, finds_or_adds ⟨doc, account, m.label⟩
        (hbook ▸ hissue) (hissued.trans ?_) rfl⟩
      simp [issuedFor, issueCall, hscope, Except.toOption]
  | adminInvoiceGet cloud user m =>
    obtain ⟨rfl, rfl⟩ := Prod.mk.inj hserve
    refine .inl ⟨hissued.trans ?_, rfl⟩
    cases adminInvoiceGet c w.settings cloud user m w.db <;> rfl
  | adminInvoiceList cloud user =>
    obtain ⟨rfl, rfl⟩ := Prod.mk.inj hserve
    exact .inl ⟨hissued, rfl⟩
  | issue now account domainId m issuedBy =>
    simp only [serve] at hserve
    split at hserve
    · obtain ⟨rfl, rfl⟩ := Prod.mk.inj hserve
      exact .inl ⟨hissued, rfl⟩
    · rename_i doc book hissue
      obtain ⟨rfl, rfl⟩ := Prod.mk.inj hserve
      exact .inr ⟨⟨account, domainId, m⟩, finds_or_adds ⟨doc, account, m.label⟩
        hissue hissued rfl⟩
  | write _ _ _ _ =>
    obtain ⟨rfl, rfl⟩ := Prod.mk.inj hserve
    exact .inl ⟨hissued, rfl⟩
  | configure _ =>
    obtain ⟨rfl, rfl⟩ := Prod.mk.inj hserve
    exact .inl ⟨hissued, rfl⟩

theorem invoices_of_step (h : (service c).step w e w') :
    (∃ added, w'.db.book.invoices = w.db.book.invoices ++ added) ∧
      ∃ rows, w'.db.book.lines = w.db.book.lines ++ rows ∧
        ∀ l ∈ rows, ∀ inv ∈ w.db.book.invoices, l.invoice ≠ inv.number := by
  rcases service_cases h with ⟨-, hbook⟩ | ⟨i, ⟨_, _, _, _, _, _, hbook⟩ |
    ⟨row, _, _, _, _, _, _, _, _, hfresh, hinvoices, rows, howner, hlines⟩⟩
  · exact ⟨⟨[], by rw [hbook, List.append_nil]⟩, [], by rw [hbook, List.append_nil], by simp⟩
  · exact ⟨⟨[], by rw [hbook, List.append_nil]⟩, [], by rw [hbook, List.append_nil], by simp⟩
  · exact ⟨⟨[row], hinvoices⟩, rows, hlines,
      fun l hl inv hinv => by rw [howner l hl]; exact (hfresh inv hinv).symm⟩

end Cases

/-! ### What a run issued -/

section History

variable {c : Casing} {w₀ w : World} {es : List Served}

/-- The first document the events issued under the name, ignoring case, for the month. -/
def firstIssue (c : Casing) (es : List Served) (account : String) (m : Month) : Option IssueCall :=
  (es.filterMap Served.issued).find? fun i => c.iexact i.account account ∧ i.month = m

theorem firstIssue_snoc (es : List Served) (e : Served) (account : String) (m : Month) :
    firstIssue c (es ++ [e]) account m =
      (firstIssue c es account m).or (firstIssue c [e] account m) := by
  rw [firstIssue, List.filterMap_append, List.find?_append]
  rfl

theorem firstIssue_congr {a b : String} (h : c.iexact a b) (m : Month) :
    firstIssue c es a m = firstIssue c es b m := by
  unfold firstIssue
  congr 1
  funext i
  have : c.iexact i.account a ↔ c.iexact i.account b :=
    ⟨fun h' => Casing.iexact_trans h' h, fun h' => Casing.iexact_trans h' (Casing.iexact_comm.1 h)⟩
  simp only [this]

theorem firstIssue_spec {account : String} {m : Month} {i : IssueCall}
    (h : firstIssue c es account m = some i) :
    (∃ e ∈ es, e.issued = some i) ∧ c.iexact i.account account ∧ i.month = m := by
  refine ⟨?_, by simpa using List.find?_some h⟩
  exact List.mem_filterMap.1 (List.mem_of_find?_eq_some h)

/-- The invoices are what the events issued: each row goes back to the first document issued under
its name for its month, and whatever was issued is found. -/
structure Recorded (c : Casing) (es : List Served) (w : World) : Prop where
  ofRow : ∀ row ∈ w.db.book.invoices, ∃ i, firstIssue c es row.account i.month = some i ∧
    row.domainId = i.domainId ∧ row.period = i.month.label
  ofIssue : ∀ e ∈ es, ∀ i, e.issued = some i →
    findInvoice c w.db.book.invoices i.account i.month.label ≠ none

theorem findInvoice_append_ne_none {invoices added : List Invoice} {account period : String}
    (h : findInvoice c invoices account period ≠ none) :
    findInvoice c (invoices ++ added) account period ≠ none := by
  rw [Ne, findInvoice_eq_none_iff] at h ⊢
  exact fun hall => h fun inv hinv => hall inv (by simp [hinv])

theorem firstIssue_snoc_of_some {account : String} {m : Month} {i : IssueCall} {e : Served}
    (h : firstIssue c es account m = some i) : firstIssue c (es ++ [e]) account m = some i := by
  rw [firstIssue_snoc, h, Option.some_or]

theorem Recorded.of_sameBook {e : Served} {w' : World} (h : Recorded c es w)
    (hbook : w'.db.book = w.db.book) (hissued : ∀ i, e.issued = some i →
      findInvoice c w.db.book.invoices i.account i.month.label ≠ none) :
    Recorded c (es ++ [e]) w' := by
  refine ⟨fun row hmem => ?_, fun e' he' j hj => ?_⟩
  · rw [hbook] at hmem
    obtain ⟨j, hj, hrest⟩ := h.ofRow row hmem
    exact ⟨j, firstIssue_snoc_of_some hj, hrest⟩
  · rw [hbook]
    rcases List.mem_append.1 he' with he' | he'
    · exact h.ofIssue e' he' j hj
    · rw [List.mem_singleton.1 he'] at hj
      exact hissued j hj

/-- A run from tables without invoices records what it issued. -/
theorem recorded_of_run (h : (service c).Run System.Free w₀ es w) (h₀ : w₀.db.book.invoices = []) :
    Recorded c es w := by
  refine h.invariant ⟨by simp [h₀], by simp⟩ ?_
  rintro es w e w' hrec - hstep
  have ⟨hrow, hissue⟩ := hrec
  rcases service_cases hstep with ⟨hnone, hbook⟩ | ⟨i, ⟨inv, reply, hi, hfind, -, -, hbook⟩ |
    ⟨row, reply, hi, hfind, -, -, haccount, hdomain, hperiod, -, hinvoices, -⟩⟩
  · -- nothing is issued
    refine hrec.of_sameBook hbook fun j hj => ?_
    rw [hnone] at hj
    cases hj
  · -- the invoice was there
    refine hrec.of_sameBook hbook fun j hj => ?_
    obtain rfl := Option.some.inj (hi.symm.trans hj)
    rw [hfind]
    exact Option.some_ne_none _
  · -- a row is added
    refine ⟨fun row' hmem => ?_, fun e' he' j hj => ?_⟩
    · rw [hinvoices] at hmem
      rcases List.mem_append.1 hmem with hmem | hmem
      · obtain ⟨j, hj, hrest⟩ := hrow row' hmem
        exact ⟨j, firstIssue_snoc_of_some hj, hrest⟩
      · obtain rfl := List.mem_singleton.1 hmem
        refine ⟨i, ?_, hdomain, hperiod⟩
        -- nothing was issued before under the name for the month, or it would be found
        have hbefore : firstIssue c es row'.account i.month = none := by
          rw [Option.eq_none_iff_forall_ne_some]
          intro j hj
          obtain ⟨⟨e', he', hissued⟩, hname, hmonth⟩ := firstIssue_spec hj
          refine hissue e' he' j hissued (findInvoice_eq_none_iff.2 fun inv hinv hkey => ?_)
          refine findInvoice_eq_none_iff.1 hfind inv hinv ⟨?_, hmonth ▸ hkey.2⟩
          exact Casing.iexact_trans hkey.1 (haccount ▸ hname)
        rw [firstIssue_snoc, hbefore, Option.none_or]
        simp [firstIssue, hi, haccount]
    · rw [hinvoices]
      rcases List.mem_append.1 he' with he' | he'
      · exact findInvoice_append_ne_none (hissue e' he' j hj)
      · obtain rfl := List.mem_singleton.1 he'
        obtain rfl := Option.some.inj (hi.symm.trans hj)
        rw [Ne, findInvoice_eq_none_iff]
        intro hall
        exact hall row (by simp) ⟨haccount ▸ Casing.iexact_refl c _, hperiod⟩

end History

/-! ### Playing requests -/

/-- Serve one more request. -/
def playOne (c : Casing) (played : List Served × World) (request : Request) : List Served × World :=
  let served := serve c played.2 request
  (played.1 ++ [⟨request, served.1, issuedFor c played.2.db request served.1⟩], served.2)

/-- Serve the requests in order. -/
def play (c : Casing) (w₀ : World) (requests : List Request) : List Served × World :=
  requests.foldl (playOne c) ([], w₀)

theorem run_play (c : Casing) (w₀ : World) (requests : List Request) :
    (service c).Run System.Free w₀ (play c w₀ requests).1 (play c w₀ requests).2 := by
  induction requests using List.reverseRecOn with
  | nil => exact .nil
  | append_singleton requests request ih =>
    have hlast : play c w₀ (requests ++ [request]) = playOne c (play c w₀ requests) request := by
      rw [play, List.foldl_append]
      rfl
    rw [hlast]
    generalize play c w₀ requests = played at ih ⊢
    exact ih.snoc trivial ⟨Prod.mk.eta.symm, rfl⟩

end OpenCloud
