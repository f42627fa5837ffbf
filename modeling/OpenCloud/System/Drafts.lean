import OpenCloud.Billing.PriceLists
import OpenCloud.Platform.Requisites
import OpenCloud.System.Service

/-!
# The two drafts of an invoice request

A request to issue draws the month twice: the draft it may refuse, and the draft `issue` freezes.
Requisites and price lists may be written in between, and the second draft is not looked at again.

## Main results

* `adminInvoicePost_eq`, `accountInvoicePost_eq` : a request is its check followed by `issue`.
* `invoiceCheck_eq_ok_iff` : what a request is that passes its check.
* `proper_of_run` : in a run whose every `issue` still finds requisites and a priced resource, every
  invoice is proper.
-/

namespace OpenCloud

/-- The check of a request to issue the month of `scope`: what it issues, if it is not refused. -/
def invoiceCheck (c : Casing) (s : Settings) (db : Db) (today : Date) (m : Month)
    (scope : Except AppError (String × String)) : Except AppError IssueCall :=
  match scope with
  | .error err => .error err
  | .ok (account, domainId) =>
    if today < m.first then .error notStarted
    else match refusal (draft c s db account domainId m) with
      | some err => .error err
      | none => .ok ⟨account, domainId, m⟩

/-- The call of `issue` by a request that passed its check. -/
def issueChecked (c : Casing) (s : Settings) (db : Db) (now : Instant) (call : IssueCall)
    (issuedBy : String) :
    Except DbError (Document × InvoiceBook) :=
  issue c s db now call.account call.domainId call.month issuedBy

/-! ### A request is its two steps -/

section

variable {c : Casing} {s : Settings} {db : Db} {today : Date} {now : Instant} {m : Month}

/-- What a request answers and leaves of the invoices, from its two steps on one table. -/
def postInvoice (c : Casing) (s : Settings) (db : Db) (today : Date) (now : Instant) (m : Month)
    (scope : Except AppError (String × String)) (issuedBy : String) :
    Except Failure InvoiceReply × InvoiceBook :=
  match invoiceCheck c s db today m scope with
  | .error err => (.error (.app err), db.book)
  | .ok call =>
    match issueChecked c s db now call issuedBy with
    | .error err => (.error (.db err), db.book)
    | .ok (issued, book) => (.ok ⟨issued, call.account, m.label⟩, book)

/-- A request of the cabinet is its check and `issue`. -/
theorem adminInvoicePost_eq (cloud : Cloud) (user : CabinetUser) :
    (fun out : Except Failure InvoiceReply × Db => (out.1, out.2.book))
        (adminInvoicePost c s cloud today now user m db) =
      postInvoice c s db today now m (accountDomain c cloud user) (issuer user) := by
  unfold adminInvoicePost postInvoice invoiceCheck issueChecked
  cases accountDomain c cloud user with
  | error err => rfl
  | ok scope =>
    dsimp only
    split_ifs
    · rfl
    · cases refusal (draft c s db scope.1 scope.2 m) with
      | some err => rfl
      | none =>
        dsimp only
        cases issue c s db now scope.1 scope.2 m (issuer user) with
        | error err => rfl
        | ok issued => rfl

/-- A request of the panel is its check and `issue`. -/
theorem accountInvoicePost_eq (email name : String) :
    (fun out : Except Failure InvoiceReply × Db => (out.1, out.2.book))
        (accountInvoicePost c s name m db today now email) =
      postInvoice c s db today now m (resolveAccount c db.usageSnapshots name) email := by
  unfold accountInvoicePost postInvoice invoiceCheck issueChecked
  cases resolveAccount c db.usageSnapshots name with
  | error err => rfl
  | ok scope =>
    dsimp only
    split_ifs
    · rfl
    · cases refusal (draft c s db scope.1 scope.2 m) with
      | some err => rfl
      | none =>
        dsimp only
        cases issue c s db now scope.1 scope.2 m email with
        | error err => rfl
        | ok issued => rfl

end

/-! ### The requests side by side -/

/-- A request that has passed its check. -/
structure Checked where
  call : IssueCall
  issuedBy : String
  deriving DecidableEq

/-- The tables, and the requests between their check and their `issue`. -/
structure Counter where
  db : Db
  checked : List Checked

/-- The steps of the requests. -/
inductive CounterStep where
  /-- `AccountInvoiceView.post` up to `issue`. -/
  | accountCheck (today : Date) (email name : String) (m : Month)
  /-- `AdminInvoiceView.post` up to `issue`. -/
  | adminCheck (cloud : Cloud) (today : Date) (user : CabinetUser) (m : Month)
  /-- The `issue` of a request that passed its check. -/
  | issue (now : Instant) (post : Checked)
  | adminProfile (cloud : Cloud) (user : CabinetUser) (submitted : SubmittedProfile)
  | accountProfile (email name : String) (submitted : SubmittedProfile)
  | prices (crossing : Bool) (w : PriceWrite)

/-- The request has passed its check, or is refused. -/
def Counter.check (counter : Counter) (out : Except AppError IssueCall) (issuedBy : String) :
    Counter :=
  match out with
  | .error _ => counter
  | .ok call => { counter with checked := counter.checked ++ [⟨call, issuedBy⟩] }

/-- Replace the price lists. -/
def Db.setPrices (db : Db) (lists : PriceLists) : Db :=
  { db with tariffs := lists.tariffs, tariffRates := lists.rates }

/-- The tables after a step, and the requests that have passed their check.  The journals are left
out. -/
def counterStep (c : Casing) (s : Settings) (counter : Counter) : CounterStep → Option Counter
  | .accountCheck today email name m =>
    some (counter.check
      (invoiceCheck c s counter.db today m (resolveAccount c counter.db.usageSnapshots name)) email)
  | .adminCheck cloud today user m =>
    some (counter.check (invoiceCheck c s counter.db today m (accountDomain c cloud user))
      (issuer user))
  | .issue now post =>
    if post ∈ counter.checked then
      match issueChecked c s counter.db now post.call post.issuedBy with
      | .error _ => some { counter with checked := counter.checked.erase post }
      | .ok (_, book) => some ⟨counter.db.setBook book, counter.checked.erase post⟩
    else none
  | .adminProfile cloud user submitted =>
    some { counter with db := (adminProfilePut c s counter.db cloud user submitted).2 }
  | .accountProfile email name submitted =>
    some { counter with db := (accountProfilePut c counter.db email name submitted).2 }
  | .prices crossing w =>
    let lists := (writePriceLists c ⟨counter.db.tariffs, counter.db.tariffRates⟩ crossing w).2
    some { counter with db := counter.db.setPrices lists }

/-- The requests side by side. -/
def counter (c : Casing) (s : Settings) : System Counter CounterStep :=
  System.ofExec (counterStep c s)

/-- The invoice names both sides in full, is of a measured month and has a line. -/
structure Proper (book : InvoiceBook) (inv : Invoice) : Prop where
  requisites : missingRequisites inv.seller inv.buyer = []
  days : 1 ≤ inv.daysMeasured
  lines : book.linesOf inv.number ≠ []

/-- The requisites are complete, and some resource held in the month has a price. -/
def Due (c : Casing) (s : Settings) (db : Db) (call : IssueCall) : Prop :=
  missingRequisites s.billingSeller (buyer c db.billingProfiles call.account) = [] ∧
  ∃ r, (∃ row ∈ draftRows db.usageSnapshots call.domainId call.month,
    held db.accountSettings r row ≠ 0) ∧
    ((rateMap db.tariffRates (resolveTariff c db.tariffs call.account)).get? r).isSome

/-- An `issue` that finds no invoice of the account and month finds it due. -/
def StillDue (c : Casing) (s : Settings) (counter : Counter) : CounterStep → Prop
  | .issue _ post =>
    findInvoice c counter.db.book.invoices post.call.account post.call.month.label = none →
      Due c s counter.db post.call
  | _ => True

section

variable {c : Casing} {s : Settings} {db : Db} {account domainId : String} {m : Month}

/-- A draft has a priced line exactly if some resource held in the month has a price. -/
theorem exists_priced_iff : (∃ line ∈ draftLines c db account domainId m, line.priced = true) ↔
    ∃ r, (∃ row ∈ draftRows db.usageSnapshots domainId m, held db.accountSettings r row ≠ 0) ∧
      ((rateMap db.tariffRates (resolveTariff c db.tariffs account)).get? r).isSome := by
  have hmem :
    ∀ r, (∃ row ∈ draftRows db.usageSnapshots domainId m, held db.accountSettings r row ≠ 0) ↔
      ∃ q, (r, q) ∈ sortedItems
        (unitDays db.accountSettings (draftRows db.usageSnapshots domainId m)) := by
    intro r
    rw [← isSome_unitDays, Option.isSome_iff_exists]
    refine exists_congr fun q => ?_
    rw [sortedItems, List.mem_insertionSort, Dict.mem_iff_get? nodup_keys_unitDays]
  constructor
  · rintro ⟨line, hline, hpriced⟩
    simp only [draftLines, draftCost, costOf, List.map_map, List.mem_map,
      Function.comp_apply] at hline
    obtain ⟨e, he, rfl⟩ := hline
    exact ⟨e.1, (hmem e.1).2 ⟨e.2, he⟩, hpriced⟩
  · rintro ⟨r, hheld, hpriced⟩
    obtain ⟨q, hq⟩ := (hmem r).1 hheld
    refine ⟨_, List.mem_map_of_mem (List.mem_map_of_mem hq), hpriced⟩

theorem invoiceLinesOf_ne_nil_iff {number : String} {prepared : Document} {rows : List InvoiceLine}
    (h : invoiceLinesOf number prepared = some rows) :
    rows ≠ [] ↔ ∃ line ∈ prepared.lines, line.priced = true := by
  have hlength := (forall₂_invoiceLinesOf h).length_eq
  rw [← List.length_pos_iff, ← hlength, List.length_pos_iff, Ne, List.filter_eq_nil_iff]
  simp

/-- A new invoice is proper exactly if it was due, given that the month was measured. -/
theorem proper_iff_due {book : InvoiceBook} {now : Instant} {call : IssueCall} {issuedBy : String}
    {inv row : Invoice} {rows : List InvoiceLine}
    (hdays : 1 ≤ measuredDays (draftRows db.usageSnapshots call.domainId call.month))
    (hinv : inv = invoiceOf (draft c s db call.account call.domainId call.month) now call.domainId
      call.month issuedBy (nextNumber db.book.invoices call.month.year).2
      (nextNumber db.book.invoices call.month.year).1)
    (hsaved : inv.saved = some row) (hclash : ∀ old ∈ db.book.invoices, ¬ Invoice.Clash old row)
    (hrows : invoiceLinesOf inv.number (draft c s db call.account call.domainId call.month) =
      some rows)
    (hlines : book.lines = db.book.lines ++ rows) : Proper book row ↔ Due c s db call := by
  have hrow := (Invoice.saved_spec hsaved).1
  have hnumber : row.number = inv.number := by rw [hrow]
  have hfresh : ∀ l ∈ db.book.lines, l.invoice ≠ row.number := by
    intro l hl heq
    obtain ⟨old, hold, hold'⟩ := db.book.owned l hl
    exact hclash old hold (.inl (hold'.trans heq))
  have howned : ∀ l ∈ rows, l.invoice = row.number := fun l hl =>
    (invoice_of_mem_invoiceLinesOf hrows hl).trans hnumber.symm
  have hlinesOf : book.linesOf row.number ≠ [] ↔ rows ≠ [] := by
    have hfilter : book.lines.filter (fun l => l.invoice = row.number) = rows := by
      rw [hlines, List.filter_append,
        List.filter_eq_nil_iff.2 fun l hl => by simpa using hfresh l hl,
        List.filter_eq_self.2 fun l hl => by simpa using howned l hl, List.nil_append]
    rw [InvoiceBook.linesOf, linesIn, hfilter, ← List.length_pos_iff, List.length_insertionSort,
      List.length_pos_iff]
  have hsides : row.seller = s.billingSeller ∧ row.buyer = buyer c db.billingProfiles call.account ∧
      row.daysMeasured = measuredDays (draftRows db.usageSnapshots call.domainId call.month) := by
    rw [hrow, hinv]
    exact ⟨rfl, rfl, rfl⟩
  obtain ⟨hseller, hbuyer, hmeasured⟩ := hsides
  rw [invoiceLinesOf_ne_nil_iff hrows] at hlinesOf
  have hpriced := hlinesOf.trans exists_priced_iff
  constructor
  · intro h
    refine ⟨?_, hpriced.1 h.lines⟩
    rw [← hseller, ← hbuyer]
    exact h.requisites
  · rintro ⟨hrequisites, hresource⟩
    refine ⟨?_, ?_, hpriced.2 hresource⟩
    · rw [hseller, hbuyer]
      exact hrequisites
    · rw [hmeasured]
      exact hdays

theorem Proper.append {book book' : InvoiceBook} {inv : Invoice} {rows : List InvoiceLine}
    (h : Proper book inv) (hlines : book'.lines = book.lines ++ rows) : Proper book' inv := by
  refine ⟨h.requisites, h.days, fun hnil => h.lines ?_⟩
  rw [InvoiceBook.linesOf, linesIn, ← List.length_eq_zero_iff, List.length_insertionSort,
    List.length_eq_zero_iff] at hnil ⊢
  rw [hlines, List.filter_append] at hnil
  exact (List.append_eq_nil_iff.1 hnil).1

theorem refusal_eq_none_iff : refusal (draft c s db account domainId m) = none ↔
    1 ≤ measuredDays (draftRows db.usageSnapshots domainId m) ∧
      Due c s db ⟨account, domainId, m⟩ := by
  have hpriced : (draft c s db account domainId m).lines.any DocumentLine.priced = true ↔
      ∃ line ∈ draftLines c db account domainId m, line.priced = true := List.any_eq_true
  unfold refusal Due
  rw [← exists_priced_iff, ← hpriced]
  constructor
  · intro h
    split_ifs at h with hmissing hdays hlines
    exact ⟨Nat.one_le_iff_ne_zero.2 hdays, not_not.1 hmissing, hlines⟩
  · rintro ⟨hdays, hmissing, hlines⟩
    have hcomplete : ¬ (draft c s db account domainId m).missingRequisites ≠ [] :=
      not_not.2 hmissing
    have hmeasured : (draft c s db account domainId m).daysMeasured ≠ 0 :=
      Nat.one_le_iff_ne_zero.1 hdays
    rw [if_neg hcomplete, if_neg hmeasured, if_neg (not_not.2 hlines)]

/-- A request passes its check exactly if the month has begun and has a measured day, and the call
is due. -/
theorem invoiceCheck_eq_ok_iff {today : Date} {scope : Except AppError (String × String)}
    {call : IssueCall} :
    invoiceCheck c s db today m scope = .ok call ↔
      scope = .ok (call.account, call.domainId) ∧ call.month = m ∧ ¬ today < m.first ∧
        1 ≤ measuredDays (draftRows db.usageSnapshots call.domainId call.month) ∧
          Due c s db call := by
  unfold invoiceCheck
  constructor
  · intro h
    split at h
    · cases h
    · split_ifs at h with hbegun
      split at h
      · cases h
      · rename_i hrefusal
        obtain rfl := Except.ok.inj h
        exact ⟨rfl, rfl, hbegun, refusal_eq_none_iff.1 hrefusal⟩
  · rintro ⟨rfl, rfl, hbegun, hmeasured, hdue⟩
    dsimp only
    rw [if_neg hbegun, refusal_eq_none_iff.2 ⟨hmeasured, hdue⟩]

theorem measured_of_invoiceCheck {today : Date} {scope : Except AppError (String × String)}
    {call : IssueCall} (h : invoiceCheck c s db today m scope = .ok call) :
    1 ≤ measuredDays (draftRows db.usageSnapshots call.domainId call.month) :=
  (invoiceCheck_eq_ok_iff.1 h).2.2.2.1

end

/-! ### Runs -/

/-- The invoices are proper, and the requests that passed their check are for measured months. -/
structure InOrder (counter : Counter) : Prop where
  proper : ∀ inv ∈ counter.db.book.invoices, Proper counter.db.book inv
  measured : ∀ post ∈ counter.checked,
    1 ≤ measuredDays (draftRows counter.db.usageSnapshots post.call.domainId post.call.month)

section

variable {c : Casing} {s : Settings} {st st' : Counter}

theorem InOrder.check (h : InOrder st) {out : Except AppError IssueCall} {issuedBy : String}
    (hout : ∀ call, out = .ok call →
      1 ≤ measuredDays (draftRows st.db.usageSnapshots call.domainId call.month)) :
    InOrder (st.check out issuedBy) := by
  cases out with
  | error err => exact h
  | ok call =>
    refine ⟨h.proper, fun post hpost => ?_⟩
    rcases List.mem_append.1 hpost with hpost | hpost
    · exact h.measured post hpost
    · rw [List.mem_singleton.1 hpost]
      exact hout call rfl

theorem InOrder.of_frame {db : Db} (h : InOrder st) (hbook : db.book = st.db.book)
    (husage : db.usageSnapshots = st.db.usageSnapshots) : InOrder { st with db := db } := by
  refine ⟨fun inv hinv => ?_, fun post hpost => ?_⟩
  · show Proper db.book inv
    rw [hbook]
    exact h.proper inv (hbook ▸ hinv)
  · show 1 ≤ measuredDays (draftRows db.usageSnapshots _ _)
    rw [husage]
    exact h.measured post hpost

/-- An `issue` that is due leaves the invoices in order. -/
theorem InOrder.issue {now : Instant} {post : Checked} {doc : Document} {book : InvoiceBook}
    (h : InOrder st) (hpost : post ∈ st.checked) (hdue : StillDue c s st (.issue now post))
    (hissue : issueChecked c s st.db now post.call post.issuedBy = .ok (doc, book)) :
    InOrder ⟨st.db.setBook book, st.checked.erase post⟩ := by
  refine ⟨fun inv hinv => ?_, fun p hp => h.measured p (List.mem_of_mem_erase hp)⟩
  rcases issue_cases hissue with
    ⟨found, -, -, rfl⟩ | ⟨hnone, new, row, rows, hnew, hsaved, hclash, hrows, hinvoices, hlines, -⟩
  · exact h.proper inv hinv
  · have hinv' : inv ∈ st.db.book.invoices ++ [row] := hinvoices ▸ hinv
    rcases List.mem_append.1 hinv' with hold | hrow
    · exact (h.proper inv hold).append hlines
    · rw [List.mem_singleton.1 hrow]
      exact (proper_iff_due (h.measured post hpost) hnew hsaved hclash hrows hlines).2 (hdue hnone)

/-- A step whose `issue` is due leaves the invoices in order. -/
theorem InOrder.step {e : CounterStep} (h : InOrder st) (hdue : StillDue c s st e)
    (hstep : (counter c s).step st e st') : InOrder st' := by
  have hexec : counterStep c s st e = some st' := hstep
  cases e with
  | accountCheck today email name m =>
    obtain rfl := Option.some.inj hexec
    exact h.check fun call hcall => measured_of_invoiceCheck hcall
  | adminCheck cloud today user m =>
    obtain rfl := Option.some.inj hexec
    exact h.check fun call hcall => measured_of_invoiceCheck hcall
  | issue now post =>
    rw [counterStep] at hexec
    split_ifs at hexec with hpost
    split at hexec
    · obtain rfl := Option.some.inj hexec
      exact ⟨h.proper, fun p hp => h.measured p (List.mem_of_mem_erase hp)⟩
    · rename_i hissue
      obtain rfl := Option.some.inj hexec
      exact h.issue hpost hdue hissue
  | adminProfile cloud user submitted =>
    obtain rfl := Option.some.inj hexec
    obtain ⟨profiles, hdb⟩ := adminProfilePut_frame c s st.db cloud user submitted
    exact h.of_frame (by rw [hdb]) (by rw [hdb])
  | accountProfile email name submitted =>
    obtain rfl := Option.some.inj hexec
    obtain ⟨profiles, actions, hdb⟩ := accountProfilePut_frame c st.db email name submitted
    exact h.of_frame (by rw [hdb]) (by rw [hdb])
  | prices crossing w =>
    obtain rfl := Option.some.inj hexec
    exact h.of_frame rfl rfl

end

/-- **Nothing improper gets a number.**  Whatever requests and writes cross, if every `issue` that
finds no invoice of its month finds it due, every invoice is proper. -/
theorem proper_of_run {c : Casing} {s : Settings} {db : Db} {es : List CounterStep} {st : Counter}
    (hrun : (counter c s).Run (fun _ st e => StillDue c s st e) ⟨db.setBook .empty, []⟩ es st) :
    ∀ inv ∈ st.db.book.invoices, Proper st.db.book inv := by
  refine InOrder.proper (hrun.invariant (I := fun _ st => InOrder st) ⟨?_, ?_⟩ ?_)
  · intro inv hinv
    cases hinv
  · intro post hpost
    cases hpost
  · exact fun _ _ _ _ h hdue hstep => h.step hdue hstep

/-- Acme's August, measured and priced. -/
def acmeAugust : Counter := ⟨(pricedDb "Acme" (measuredRow "Acme" "d1" "p1")).setBook .empty, []⟩

/-- An operator's request to issue it. -/
def acmePost : Checked := ⟨⟨"Acme", "d1", august⟩, "op"⟩

/-- The request passes its check. -/
def acmeChecked : Counter := { acmeAugust with checked := [acmePost] }

theorem acmeChecked_step : (counter .ascii plainSettings).step acmeAugust
    (.accountCheck august.first "op" "Acme" august) acmeChecked := by
  have hcheck : invoiceCheck .ascii plainSettings acmeAugust.db august.first august
      (resolveAccount .ascii acmeAugust.db.usageSnapshots "Acme") = .ok acmePost.call := by
    have hok : (invoiceCheck .ascii plainSettings acmeAugust.db august.first august
        (resolveAccount .ascii acmeAugust.db.usageSnapshots "Acme")).toOption =
          some acmePost.call := by
      decide +kernel
    revert hok
    cases invoiceCheck .ascii plainSettings acmeAugust.db august.first august
      (resolveAccount .ascii acmeAugust.db.usageSnapshots "Acme") with
    | error err => exact fun h => by cases h
    | ok call => exact fun h => congrArg _ (Option.some.inj h)
  show counterStep .ascii plainSettings acmeAugust (.accountCheck august.first "op" "Acme" august) =
    _
  rw [counterStep, hcheck]
  rfl

theorem proper_of_run_acme : ∃ es st, (counter .ascii plainSettings).Run
      (fun _ st e => StillDue .ascii plainSettings st e)
      ⟨(pricedDb "Acme" (measuredRow "Acme" "d1" "p1")).setBook .empty, []⟩ es st ∧
    st.db.book.invoices.map Invoice.number = ["СФ-2026-0001"] ∧
    ∀ inv ∈ st.db.book.invoices, Proper st.db.book inv := by
  have hdue : Due .ascii plainSettings acmeChecked.db acmePost.call :=
    ⟨by decide +kernel, .vcpu, ⟨measuredRow "Acme" "d1" "p1", by decide +kernel, by decide +kernel⟩,
      by decide +kernel⟩
  have hstill : StillDue .ascii plainSettings acmeChecked (.issue 1 acmePost) := fun _ => hdue
  have hexec : (counterStep .ascii plainSettings acmeChecked (.issue 1 acmePost)).map
      (fun st => st.db.book.invoices.map Invoice.number) = some ["СФ-2026-0001"] := by
        decide +kernel
  obtain ⟨st, hst, hnumbers⟩ := Option.map_eq_some_iff.1 hexec
  have hrun : (counter .ascii plainSettings).Run (fun _ st e => StillDue .ascii plainSettings st e)
      ⟨(pricedDb "Acme" (measuredRow "Acme" "d1" "p1")).setBook .empty, []⟩ _ st :=
    (System.Run.nil.snoc trivial acmeChecked_step).snoc hstill hst
  exact ⟨_, st, hrun, hnumbers, proper_of_run hrun⟩

/-- The requisites are blanked between the check and the `issue`, and the invoice names no tax
number. -/
theorem blanked_between : ∃ es st, (counter .ascii plainSettings).Run System.Free
      ⟨(pricedDb "Acme" (measuredRow "Acme" "d1" "p1")).setBook .empty, []⟩ es st ∧
    es = [.accountCheck august.first "op" "Acme" august,
      .accountProfile "op" "Acme" ⟨some "Acme", none, none, none, none, none, none⟩,
        .issue 1 acmePost] ∧
    ¬ ∀ inv ∈ st.db.book.invoices, Proper st.db.book inv := by
  have hexec : (System.execAll (counterStep .ascii plainSettings) System.Free [] acmeAugust
      [.accountCheck august.first "op" "Acme" august,
        .accountProfile "op" "Acme" ⟨some "Acme", none, none, none, none, none, none⟩,
          .issue 1 acmePost]).map
      (fun st => st.db.book.invoices.map fun inv => missingRequisites inv.seller inv.buyer) =
      some [["buyer ИНН"]] := by decide +kernel
  obtain ⟨st, hst, hmissing⟩ := Option.map_eq_some_iff.1 hexec
  refine ⟨_, st, System.Run.of_exec hst, rfl, fun hproper => ?_⟩
  have hnone : ∀ missing ∈ st.db.book.invoices.map fun inv =>
    missingRequisites inv.seller inv.buyer,
      missing = [] := by
    intro missing hmem
    obtain ⟨inv, hinv, rfl⟩ := List.mem_map.1 hmem
    exact (hproper inv hinv).requisites
  rw [hmissing] at hnone
  exact absurd (hnone _ (List.mem_singleton_self _)) (by decide)

end OpenCloud
