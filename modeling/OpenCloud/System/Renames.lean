import OpenCloud.System.Service

/-!
# Invoices of an account across renames

An account is a domain of the cloud; its name may change, and another account may take the old one.
Invoices are looked up, and kept apart, by name.

* One invoice for a domain and month: `no_month_twice_iff` says a run keeps it exactly when no
  document is issued under a name that has no invoice for a month while its domain has one.
  `month_invoiced_twice` is a rename between two issues.
* An administrator's documents are the own account's: `own_documents_iff` says a request answers
  only those exactly when the first document of the run under the administrator's account name was
  issued for the administrator's domain.  `foreign_document_shown` is a name another account took
  over.
-/

namespace OpenCloud

variable {c : Casing} {w₀ w w' : World} {es : List Served} {e : Served}

/-! ### One invoice for a domain and month -/

/-- Two invoices of one domain for one month. -/
def SameMonth (a b : Invoice) : Prop :=
  a.domainId ≠ "" ∧ a.domainId = b.domainId ∧ a.period = b.period

instance : DecidableRel SameMonth := fun _ _ => inferInstanceAs (Decidable (_ ∧ _))

/-- No month of a domain is invoiced twice. -/
def NoMonthTwice (book : InvoiceBook) : Prop := book.invoices.Pairwise fun a b => ¬ SameMonth a b

instance (book : InvoiceBook) : Decidable (NoMonthTwice book) :=
  inferInstanceAs (Decidable (List.Pairwise _ _))

/-- A document is issued for a domain and month that have an invoice only under a name that has an
invoice for the month. -/
def NameKept (c : Casing) : List Served → World → Served → Prop := fun _ w e =>
  ∀ i, e.issued = some i → i.domainId ≠ "" →
    (∃ inv ∈ w.db.book.invoices, inv.domainId = i.domainId ∧ inv.period = i.month.label) →
      ∃ inv ∈ w.db.book.invoices, c.iexact inv.account i.account ∧ inv.period = i.month.label

/-- A step keeps the months single if and only if it keeps to the names. -/
theorem noMonthTwice_step (h : (service c).step w e w') (hw : NoMonthTwice w.db.book) :
    NoMonthTwice w'.db.book ↔ NameKept c es w e := by
  rcases service_cases h with ⟨hnone, hbook⟩ | ⟨i, ⟨inv, -, hi, hfind, -, -, hbook⟩ |
    ⟨row, -, hi, hfind, -, -, haccount, hdomain, hperiod, -, hinvoices, -⟩⟩
  · exact iff_of_true (hbook ▸ hw) fun i hi => by rw [hnone] at hi; cases hi
  · refine iff_of_true (hbook ▸ hw) fun j hj _ _ => ?_
    obtain rfl := Option.some.inj (hi.symm.trans hj)
    exact ⟨inv, findInvoice_spec hfind⟩
  · have hnew : NoMonthTwice w'.db.book ↔ ∀ inv ∈ w.db.book.invoices, ¬ SameMonth inv row := by
      rw [NoMonthTwice, hinvoices, List.pairwise_append]
      simp only [List.pairwise_singleton, List.mem_singleton, forall_eq, true_and]
      exact and_iff_right hw
    have hno : ¬ ∃ inv ∈ w.db.book.invoices,
        c.iexact inv.account i.account ∧ inv.period = i.month.label := fun ⟨inv, hinv, hkey⟩ =>
      findInvoice_eq_none_iff.1 hfind inv hinv hkey
    rw [hnew]
    constructor
    · rintro hall j hj hne ⟨inv, hinv, hd, hp⟩
      obtain rfl := Option.some.inj (hi.symm.trans hj)
      exact absurd ⟨hd ▸ hne, hd.trans hdomain.symm, hp.trans hperiod.symm⟩ (hall inv hinv)
    · rintro hkept inv hinv ⟨hne, hd, hp⟩
      have hd' := hd.trans hdomain
      exact hno (hkept i hi (hd' ▸ hne) ⟨inv, hinv, hd', hp.trans hperiod⟩)

/-- In a run from tables without invoices, no month of a domain is invoiced twice exactly when every
document of the run was issued with the name kept. -/
theorem no_month_twice_iff (c : Casing) (w₀ w : World) (es : List Served)
    (h₀ : w₀.db.book.invoices = []) (h : (service c).Run System.Free w₀ es w) :
    NoMonthTwice w.db.book ↔ (service c).Run (NameKept c) w₀ es w := by
  constructor
  · intro hw
    induction h with
    | nil => exact .nil
    | snoc _ _ hstep ih =>
      obtain ⟨⟨added, hadded⟩, -⟩ := invoices_of_step hstep
      have hbefore := List.Pairwise.sublist (hadded ▸ List.sublist_append_left _ _) hw
      exact (ih hbefore).snoc ((noMonthTwice_step hstep hbefore).1 hw) hstep
  · intro hkept
    refine hkept.invariant (I := fun _ w => NoMonthTwice w.db.book) (by simp [NoMonthTwice, h₀]) ?_
    exact fun es w e w' hw hc hstep => (noMonthTwice_step hstep hw).2 hc

/-- A cloud with one running machine in the project "p1" of the domain "d1", of this name. -/
def namedCloud (name : String) (others : List DirectoryEntry) : Cloud where
  serviceToken := .ok "token"
  vms := .ok [⟨some "p1", "active", 4, 0⟩]
  volumes := .ok []
  elasticIps := .ok []
  volumeSnapshots := .ok []
  directory := .ok (⟨"d1", name⟩ :: others)
  projects d := .ok (if d = "d1" then [("p1", "Main")] else [])

/-- A price list for everyone and the requisites of two names. -/
def twoNames : World where
  settings := plainSettings
  db :=
    { Db.empty with
      tariffs := [⟨1, "Default price list", "UZS", "", true⟩]
      tariffRates := [⟨1, .vcpu, hundred⟩]
      billingProfiles := [⟨"Acme", "Acme", "456", "", "", "", "", ""⟩,
        ⟨"Umbrella", "Umbrella", "456", "", "", "", "", ""⟩] }

/-- The second of August. -/
def secondOfAugust : Date := ⟨2026, 8, 2, august.year_ok, august.month_ok, by decide⟩

/-- A domain is measured and invoiced, renamed, measured and invoiced again. -/
def renamedBetween : List Request :=
  [.capture (namedCloud "Acme" []) 0 august.first,
    .accountInvoicePost august.first 1 "op" "Acme" august,
    .capture (namedCloud "Umbrella" []) 2 secondOfAugust,
    .accountInvoicePost secondOfAugust 3 "op" "Umbrella" august]

/-- August of the domain "d1" is invoiced as Acme's and as Umbrella's. -/
theorem month_invoiced_twice :
    ((play .ascii twoNames renamedBetween).2.db.book.invoices.map fun inv =>
        (inv.number, inv.account, inv.domainId, inv.period)) =
      [("СФ-2026-0001", "Acme", "d1", "2026-08"), ("СФ-2026-0002", "Umbrella", "d1", "2026-08")] ∧
      ¬ NoMonthTwice (play .ascii twoNames renamedBetween).2.db.book := by
  constructor <;> decide +kernel

/-- A run that issues twice under the one name. -/
theorem no_month_twice_iff_of_kept :
    (service .ascii).Run (NameKept .ascii) twoNames
      (play .ascii twoNames
        [.capture (namedCloud "Acme" []) 0 august.first,
          .accountInvoicePost august.first 1 "op" "Acme" august,
          .accountInvoicePost august.first 2 "op" "acme" august]).1
      (play .ascii twoNames
        [.capture (namedCloud "Acme" []) 0 august.first,
          .accountInvoicePost august.first 1 "op" "Acme" august,
          .accountInvoicePost august.first 2 "op" "acme" august]).2 :=
  (no_month_twice_iff .ascii twoNames _ _ rfl (run_play _ _ _)).1 (by decide +kernel)

/-! ### Documents of the own account -/

/-- The issued documents an answer shows, by their numbers; a draft has none. -/
def Answer.documents : Answer → List String
  | .document (.ok reply) => reply.data.number.toList
  | .list (.ok reply) => reply.data.map InvoiceEntry.number
  | _ => []

/-- The request was not refused. -/
def Answer.Answered : Answer → Prop
  | .document (.ok _) => True
  | .list (.ok _) => True
  | _ => False

/-- An administrator's request: the account and domain `account_domain` gives, and the month it is
about, none for the list of all. -/
structure AdminScope where
  account : String
  domainId : String
  month : Option Month

/-- The scope of the three endpoints of the cabinet. -/
def adminScope (c : Casing) : Request → Option AdminScope
  | .adminInvoiceGet cloud user m =>
    (accountDomain c cloud user).toOption.map fun e => ⟨e.1, e.2, some m⟩
  | .adminInvoicePost cloud _ _ user m =>
    (accountDomain c cloud user).toOption.map fun e => ⟨e.1, e.2, some m⟩
  | .adminInvoiceList cloud user =>
    (accountDomain c cloud user).toOption.map fun e => ⟨e.1, e.2, none⟩
  | _ => none

/-- Every issued document the answer shows is an invoice of the domain. -/
def OwnDocuments (book : InvoiceBook) (domainId : String) (answer : Answer) : Prop :=
  ∀ number ∈ answer.documents, ∃ inv ∈ book.invoices, inv.number = number ∧ inv.domainId = domainId

instance (book : InvoiceBook) (domainId : String) (answer : Answer) :
    Decidable (OwnDocuments book domainId answer) :=
  inferInstanceAs (Decidable (∀ number ∈ answer.documents, _))

/-- The request is about the month. -/
def AdminScope.About (scope : AdminScope) (m : Month) : Prop := ∀ m', scope.month = some m' → m' = m

/-- The first document of the run under the administrator's account name, for each month the request
is about, was issued for the administrator's domain. -/
def NameNotTaken (c : Casing) (es : List Served) (scope : AdminScope) : Prop :=
  ∀ m, scope.About m → ∀ i, firstIssue c es scope.account m = some i → i.domainId = scope.domainId

section Own

theorem firstIssue_of_invoice (h : Recorded c es w) {inv : Invoice} {account : String} {m : Month}
    (hinv : inv ∈ w.db.book.invoices) (hname : c.iexact inv.account account)
    (hperiod : inv.period = m.label) :
    ∃ i, firstIssue c es account m = some i ∧ inv.domainId = i.domainId := by
  obtain ⟨i, hi, hdomain, hlabel⟩ := h.ofRow inv hinv
  obtain rfl : i.month = m := Month.label_inj (hlabel.symm.trans hperiod)
  exact ⟨i, firstIssue_congr hname _ ▸ hi, hdomain⟩

theorem invoice_of_firstIssue (h : Recorded c es w) {account : String} {m : Month} {i : IssueCall}
    (hi : firstIssue c es account m = some i) :
    ∃ inv ∈ w.db.book.invoices, c.iexact inv.account account ∧ inv.period = m.label ∧
      inv.domainId = i.domainId := by
  obtain ⟨⟨e, he, hissued⟩, hname, rfl⟩ := firstIssue_spec hi
  obtain ⟨inv, hfind⟩ := Option.ne_none_iff_exists'.1 (h.ofIssue e he i hissued)
  obtain ⟨hinv, hkey, hperiod⟩ := findInvoice_spec hfind
  have hinv_name := Casing.iexact_trans hkey hname
  obtain ⟨j, hj, hdomain⟩ := firstIssue_of_invoice h hinv hinv_name hperiod
  obtain rfl := Option.some.inj (hi.symm.trans hj)
  exact ⟨inv, hinv, hinv_name, hperiod, hdomain⟩

theorem found_own_iff (h : Recorded c es w) {inv : Invoice} {account d : String} {m : Month}
    (hfind : findInvoice c w.db.book.invoices account m.label = some inv) :
    inv.domainId = d ↔ ∀ i, firstIssue c es account m = some i → i.domainId = d := by
  obtain ⟨hinv, hname, hperiod⟩ := findInvoice_spec hfind
  obtain ⟨i, hi, hdomain⟩ := firstIssue_of_invoice h hinv hname hperiod
  simp only [hi, Option.some.injEq, forall_eq', hdomain]

theorem firstIssue_eq_none (h : Recorded c es w) {account : String} {m : Month}
    (hfind : findInvoice c w.db.book.invoices account m.label = none) :
    firstIssue c es account m = none := by
  rw [Option.eq_none_iff_forall_ne_some]
  intro i hi
  obtain ⟨inv, hinv, hname, hperiod, -⟩ := invoice_of_firstIssue h hi
  exact findInvoice_eq_none_iff.1 hfind inv hinv ⟨hname, hperiod⟩

theorem ownDocuments_of_one {book : InvoiceBook} {d : String} {answer : Answer} (inv : Invoice)
    (hinv : inv ∈ book.invoices) (hshows : ∀ number, number ∈ answer.documents ↔
      number = inv.number) :
    OwnDocuments book d answer ↔ inv.domainId = d := by
  constructor
  · intro h
    obtain ⟨inv', hinv', hnumber, hd⟩ := h inv.number ((hshows _).2 rfl)
    obtain rfl := book.eq_of_number hinv' hinv hnumber
    exact hd
  · rintro hd number hnumber
    exact ⟨inv, hinv, ((hshows _).1 hnumber).symm, hd⟩

theorem nameNotTaken_of_month {account d : String} {m : Month} :
    NameNotTaken c es ⟨account, d, some m⟩ ↔
      ∀ i, firstIssue c es account m = some i → i.domainId = d := by
  simp [NameNotTaken, AdminScope.About]

theorem accountDomain_of_scope {cloud : Cloud} {user : CabinetUser} {scope : AdminScope}
    {month : Option Month}
    (h : (accountDomain c cloud user).toOption.map (fun e => ⟨e.1, e.2, month⟩) = some scope) :
    accountDomain c cloud user = .ok (scope.account, scope.domainId) ∧
      scope = ⟨scope.account, scope.domainId, month⟩ := by
  cases hd : accountDomain c cloud user with
  | error err => simp [hd, Except.toOption] at h
  | ok e =>
    obtain rfl : _ = scope := by simpa [hd, Except.toOption] using h
    exact ⟨rfl, rfl⟩

/-- The document of a month, issued or not. -/
theorem own_documents_get {cloud : Cloud} {user : CabinetUser} {m : Month} {scope : AdminScope}
    (hrec : Recorded c es w) (hscope : adminScope c (.adminInvoiceGet cloud user m) = some scope) :
    OwnDocuments w.db.book scope.domainId
      (.document (adminInvoiceGet c w.settings cloud user m w.db)) ↔ NameNotTaken c es scope := by
  rw [adminScope] at hscope
  obtain ⟨hdomain, hmonth⟩ := accountDomain_of_scope hscope
  rw [hmonth, nameNotTaken_of_month]
  cases hfind : findInvoice c w.db.book.invoices scope.account m.label with
  | none =>
    refine iff_of_true (fun number hshows => ?_) fun i hi => ?_
    · simp [Answer.documents, adminInvoiceGet, hdomain, hfind, draft] at hshows
    · rw [firstIssue_eq_none hrec hfind] at hi
      cases hi
  | some inv =>
    rw [← found_own_iff hrec hfind]
    refine ownDocuments_of_one inv (findInvoice_spec hfind).1 fun number => ?_
    simp [Answer.documents, adminInvoiceGet, hdomain, hfind, serialize]

/-- The document a request issued: one found, or a new one, which is the own domain's. -/
theorem own_documents_post {cloud : Cloud} {today : Date} {now : Instant} {user : CabinetUser}
    {m : Month} {answer : Answer} {issued : Option IssueCall} {scope : AdminScope}
    (hrec : Recorded c es w)
    (hstep : (service c).step w ⟨.adminInvoicePost cloud today now user m, answer, issued⟩ w')
    (hscope : adminScope c (.adminInvoicePost cloud today now user m) = some scope)
    (hok : answer.Answered) :
    OwnDocuments w'.db.book scope.domainId answer ↔ NameNotTaken c es scope := by
  rw [adminScope] at hscope
  obtain ⟨hdomain, hmonth⟩ := accountDomain_of_scope hscope
  obtain ⟨reply, rfl⟩ : ∃ reply, answer = .document (.ok reply) := by
    have hserve := congrArg Prod.fst hstep.1
    simp only [serve] at hserve
    generalize (adminInvoicePost c w.settings cloud today now user m w.db).1 = posted at hserve
    subst hserve
    cases posted with
    | error err => exact hok.elim
    | ok reply => exact ⟨reply, rfl⟩
  have hcall : issued = some ⟨scope.account, scope.domainId, m⟩ := by
    refine hstep.2.trans ?_
    simp [issuedFor, issueCall, hdomain, Except.toOption]
  rw [hmonth, nameNotTaken_of_month]
  rcases service_cases hstep with ⟨hnone, -⟩ | ⟨i, ⟨inv, reply', hi, hfind, hanswer, hdata, hbook⟩ |
    ⟨row, reply', hi, hfind, hanswer, hnumber, -, hrow, -, -, hinvoices, -⟩⟩
  · rw [hcall] at hnone
    cases hnone
  · obtain rfl := Option.some.inj (hcall.symm.trans hi)
    obtain rfl : reply = reply' := by simpa using hanswer
    rw [← found_own_iff hrec hfind]
    refine ownDocuments_of_one inv (hbook ▸ (findInvoice_spec hfind).1) fun number => ?_
    simp [Answer.documents, hdata, serialize]
  · obtain rfl := Option.some.inj (hcall.symm.trans hi)
    obtain rfl : reply = reply' := by simpa using hanswer
    refine iff_of_true ?_ fun i hi => ?_
    · refine (ownDocuments_of_one row (by simp [hinvoices]) fun number => ?_).2 hrow
      simp [Answer.documents, hnumber]
    · rw [firstIssue_eq_none hrec hfind] at hi
      cases hi

/-- The list of all documents of the account. -/
theorem own_documents_list {cloud : Cloud} {user : CabinetUser} {scope : AdminScope}
    (hrec : Recorded c es w) (hscope : adminScope c (.adminInvoiceList cloud user) = some scope) :
    OwnDocuments w.db.book scope.domainId (.list (adminInvoiceList c cloud user w.db)) ↔
      NameNotTaken c es scope := by
  rw [adminScope] at hscope
  obtain ⟨hdomain, hmonth⟩ := accountDomain_of_scope hscope
  have hshows : ∀ number, number ∈ (Answer.list (adminInvoiceList c cloud user w.db)).documents ↔
      ∃ inv ∈ w.db.book.invoices, c.iexact inv.account scope.account ∧ inv.number = number := by
    intro number
    simp only [Answer.documents, adminInvoiceList, hdomain, List.map_map, List.mem_map,
      List.mem_insertionSort, List.mem_filter, decide_eq_true_eq, Function.comp_apply, and_assoc]
    rfl
  constructor
  · intro hown m _ i hi
    obtain ⟨inv, hinv, hname, -, hd⟩ := invoice_of_firstIssue hrec hi
    obtain ⟨inv', hinv', hnumber, hd'⟩ := hown inv.number ((hshows _).2 ⟨inv, hinv, hname, rfl⟩)
    obtain rfl := w.db.book.eq_of_number hinv' hinv hnumber
    exact hd.symm.trans hd'
  · intro hkept number hnumber
    obtain ⟨inv, hinv, hname, rfl⟩ := (hshows _).1 hnumber
    obtain ⟨j, -, -, hperiod⟩ := hrec.ofRow inv hinv
    obtain ⟨i, hi, hd⟩ := firstIssue_of_invoice hrec hinv hname hperiod
    refine ⟨inv, hinv, rfl, hd.trans (hkept j.month ?_ i hi)⟩
    rw [AdminScope.About, hmonth]
    simp

end Own

/-- An answered request of an administrator, after any run from tables without invoices, shows only
documents of the administrator's domain exactly when the administrator's account name was not taken
from another domain: the first document of the run under the name, for each month the request is
about, was issued for that domain. -/
theorem own_documents_iff (c : Casing) (w₀ w w' : World) (es : List Served) (e : Served)
    (scope : AdminScope) (h₀ : w₀.db.book.invoices = [])
    (hrun : (service c).Run System.Free w₀ es w) (hstep : (service c).step w e w')
    (hscope : adminScope c e.request = some scope) (hok : e.answer.Answered) :
    OwnDocuments w'.db.book scope.domainId e.answer ↔ NameNotTaken c es scope := by
  have hrec := recorded_of_run hrun h₀
  obtain ⟨request, answer, issued⟩ := e
  cases request with
  | adminInvoiceGet cloud user m =>
    obtain ⟨rfl, rfl⟩ := Prod.mk.inj hstep.1
    exact own_documents_get hrec hscope
  | adminInvoicePost cloud today now user m => exact own_documents_post hrec hstep hscope hok
  | adminInvoiceList cloud user =>
    obtain ⟨rfl, rfl⟩ := Prod.mk.inj hstep.1
    exact own_documents_list hrec hscope
  | _ => cases hscope

/-- "Acme" is measured and invoiced, renamed, and another domain takes the name. -/
def nameTaken : List Request :=
  [.capture (namedCloud "Acme" []) 0 august.first,
    .accountInvoicePost august.first 1 "op" "Acme" august,
    .capture (namedCloud "Umbrella" [⟨"d2", "Acme"⟩]) 2 secondOfAugust]

/-- The request of the administrator of that other domain. -/
def takersRequest : Request :=
  .adminInvoiceGet (namedCloud "Umbrella" [⟨"d2", "Acme"⟩]) ⟨"Acme", "ann", "u1"⟩ august

/-- The administrator of the domain "d2" is shown the invoice of the domain "d1". -/
theorem foreign_document_shown :
    let w := (play .ascii twoNames nameTaken).2
    (adminScope .ascii takersRequest).map AdminScope.domainId = some "d2" ∧
      (serve .ascii w takersRequest).1.documents = ["СФ-2026-0001"] ∧
      (w.db.book.invoices.map fun inv => (inv.number, inv.domainId)) = [("СФ-2026-0001", "d1")] ∧
      ¬ OwnDocuments (serve .ascii w takersRequest).2.db.book "d2"
        (serve .ascii w takersRequest).1 := by
  refine ⟨?_, ?_, ?_, ?_⟩ <;> decide +kernel

/-- The administrator of the domain that was invoiced is shown its own document. -/
theorem own_documents_iff_of_invoiced :
    let requests := [.capture (namedCloud "Acme" []) 0 august.first,
      .accountInvoicePost august.first 1 "op" "Acme" august]
    let request : Request := .adminInvoiceGet (namedCloud "Acme" []) ⟨"Acme", "ann", "u1"⟩ august
    let played := play .ascii twoNames requests
    OwnDocuments (serve .ascii played.2 request).2.db.book "d1" (serve .ascii played.2 request).1 ∧
      NameNotTaken .ascii played.1 ⟨"Acme", "d1", some august⟩ := by
  intro requests request played
  have hown : OwnDocuments (serve .ascii played.2 request).2.db.book "d1"
      (serve .ascii played.2 request).1 := by decide +kernel
  refine ⟨hown, ?_⟩
  refine (own_documents_iff .ascii twoNames played.2 _ played.1 ⟨request, _, none⟩
    ⟨"Acme", "d1", some august⟩ rfl (run_play _ _ _) ⟨Prod.mk.eta.symm, ?_⟩ ?_ trivial).1 hown
  · rfl
  · rfl

end OpenCloud
