import OpenCloud.Lib.ReadCommitted
import OpenCloud.Billing.Numbering

/-!
# Issuing as a transaction

`issue` runs in a transaction of its own, beside those of other requests.  `issueProg` is the
transaction statement by statement: the existence check, the attempts to insert the invoice under
the next number (each in a savepoint), the lines, and the reads of the documents it returns.
`issues` is any number of such transactions on one book.

Only the unique constraints of the invoices can clash.  A line refers to an invoice of its own
transaction, so its foreign key holds whatever the others do.

## Main results

* `issues_cases` : what one step of the calls can do.
* `exists_run_issue` : a call nobody interrupts does what `issue` does.
-/

namespace OpenCloud

/-- A row of the tables of invoices. -/
inductive Row where
  | invoice (inv : Invoice)
  | line (l : InvoiceLine)
  deriving DecidableEq

/-- Two rows the unique constraints do not allow together. -/
def Row.Clash : Row → Row → Prop
  | .invoice a, .invoice b => Invoice.Clash a b
  | _, _ => False

instance : DecidableRel Row.Clash
  | .invoice a, .invoice b => inferInstanceAs (Decidable (Invoice.Clash a b))
  | .invoice _, .line _ => isFalse id
  | .line _, .invoice _ => isFalse id
  | .line _, .line _ => isFalse id

theorem Row.Clash.symm {a b : Row} (h : Row.Clash a b) : Row.Clash b a := by
  cases a with
  | line _ => cases h
  | invoice _ =>
    cases b with
    | line _ => cases h
    | invoice _ => exact Invoice.Clash.symm h

/-- The invoices among the rows. -/
def invoicesOf (rows : List Row) : List Invoice :=
  rows.filterMap fun | .invoice inv => some inv | .line _ => none

/-- The lines among the rows. -/
def linesOf (rows : List Row) : List InvoiceLine :=
  rows.filterMap fun | .invoice _ => none | .line l => some l

/-- A call of `issue`, with the tables its draft is made from. -/
structure Call where
  db : Db
  now : Instant
  account : String
  domainId : String
  month : Month
  issuedBy : String

section Call

variable (c : Casing) (s : Settings) (call : Call)

/-- The draft of the call. -/
def Call.prepared : Document := draft c s call.db call.account call.domainId call.month

/-- What the call answers when nobody else is there. -/
def Call.issue : Except DbError (Document × InvoiceBook) :=
  OpenCloud.issue c s call.db call.now call.account call.domainId call.month call.issuedBy

/-- The invoice of the call under a number. -/
def Call.invoice (number : String) (seq : ℕ) : Invoice :=
  invoiceOf (call.prepared c s) call.now call.domainId call.month call.issuedBy number seq

variable {c s call}

theorem Call.issue_of_found {existing : Invoice}
    (h : findInvoice c call.db.book.invoices call.account call.month.label = some existing) :
    call.issue c s =
      .ok (serialize s existing (call.db.book.linesOf existing.number), call.db.book) := by
  simp only [Call.issue, OpenCloud.issue, h]

theorem Call.issue_of_none
    (h : findInvoice c call.db.book.invoices call.account call.month.label = none) :
    call.issue c s = match allocate call.db.book call.month.year (call.invoice c s) 5 with
      | .error e => .error e
      | .ok (invoice, book) =>
        match invoiceLinesOf invoice.number (call.prepared c s) with
        | none => .error .data
        | some rows =>
          match book.bulkCreate rows with
          | none => .error .integrity
          | some book' => .ok (serialize s invoice (book'.linesOf invoice.number), book') := by
  simp only [Call.issue, OpenCloud.issue, h]
  rfl

end Call

/-- Where a call stands. -/
inductive IssueState where
  /-- Before the existence check. -/
  | start
  /-- An invoice exists; its lines are read next. -/
  | found (existing : Invoice)
  | returningExisting (doc : Document)
  /-- Before the next attempt, with the attempts left. -/
  | numbering (attempts : ℕ)
  /-- The number is chosen, with the attempts left after this one. -/
  | inserting (attempts : ℕ) (seq : ℕ) (number : String)
  /-- The invoice is written. -/
  | lining (invoice : Invoice)
  /-- The lines are written, and read next. -/
  | serializing (invoice : Invoice)
  | returningNew (doc : Document)
  /-- An exception leaves the function. -/
  | raising (err : DbError)
  /-- The transaction has ended with the call's answer. -/
  | done (answer : Except DbError Document)
  /-- The transaction was lost. -/
  | lost
  deriving DecidableEq

/-- The statement `issue` executes next. -/
def issueProg (c : Casing) (s : Settings) (call : Call) : IssueState → Instr Row IssueState
  | .start => .read fun rows =>
    match findInvoice c (invoicesOf rows) call.account call.month.label with
    | some existing => .found existing
    | none => .numbering 5
  | .found existing => .read fun rows =>
    .returningExisting (serialize s existing (linesIn (linesOf rows) existing.number))
  | .returningExisting doc => .commit (.done (.ok doc))
  -- no attempt has succeeded: `raise IntegrityError`
  | .numbering 0 => .rollback (.done (.error .integrity))
  | .numbering (attempts + 1) => .read fun rows =>
    let (seq, number) := nextNumber (invoicesOf rows) call.month.year
    .inserting attempts seq number
  | .inserting attempts seq number =>
    match (call.invoice c s number seq).saved with
    | none => .rollback (.done (.error .data))
    | some row =>
      .insert [.invoice row] (.lining (call.invoice c s number seq)) (.numbering attempts)
  | .lining invoice =>
    match invoiceLinesOf invoice.number (call.prepared c s) with
    | none => .rollback (.done (.error .data))
    | some rows => .insert (rows.map .line) (.serializing invoice) (.raising .integrity)
  | .serializing invoice => .read fun rows =>
    .returningNew (serialize s invoice (linesIn (linesOf rows) invoice.number))
  | .returningNew doc => .commit (.done (.ok doc))
  | .raising err => .rollback (.done (.error err))
  | .done _ => .halt
  | .lost => .halt

/-- Calls `ι` of `issue`, side by side. -/
def issues {ι : Type*} [DecidableEq ι] (c : Casing) (s : Settings) (calls : ι → Call) :
    System (Store ι Row IssueState) (TxEvent ι) :=
  transactions Row.Clash (fun i => issueProg c s (calls i)) .lost

/-- The book before the calls start. -/
def opened {ι : Type*} (book : InvoiceBook) : Store ι Row IssueState where
  committed := (book.invoices.map Row.invoice ++ book.lines.map Row.line).map fun r => (none, r)
  pending := []
  ctl := fun _ => .start

/-- The state after the events, none if one of them cannot happen or does not meet the condition. -/
def playIssues {ι : Type*} [DecidableEq ι] (c : Casing) (s : Settings) (calls : ι → Call)
    (C : List (TxEvent ι) → Store ι Row IssueState → TxEvent ι → Prop)
    [∀ es st e, Decidable (C es st e)] (book : InvoiceBook) (es : List (TxEvent ι)) :
    Option (Store ι Row IssueState) :=
  System.execAll (txStep Row.Clash (fun i => issueProg c s (calls i)) .lost) C [] (opened book) es

/-- A call for August from an account with one measurement. -/
def augustCall (account : String) : Call :=
  ⟨pricedDb account (measuredRow account "d" "p"), 0, account, "d", august, "op"⟩

/-! ### Rows -/

@[simp] theorem invoicesOf_append (rows rows' : List Row) :
    invoicesOf (rows ++ rows') = invoicesOf rows ++ invoicesOf rows' := List.filterMap_append

@[simp] theorem linesOf_append (rows rows' : List Row) :
    linesOf (rows ++ rows') = linesOf rows ++ linesOf rows' := List.filterMap_append

@[simp] theorem invoicesOf_nil : invoicesOf [] = [] := rfl

@[simp] theorem linesOf_nil : linesOf [] = [] := rfl

@[simp] theorem invoicesOf_cons_invoice (inv : Invoice) (rows : List Row) :
    invoicesOf (.invoice inv :: rows) = inv :: invoicesOf rows := rfl

@[simp] theorem linesOf_cons_invoice (inv : Invoice) (rows : List Row) :
    linesOf (.invoice inv :: rows) = linesOf rows := rfl

@[simp] theorem invoicesOf_map_invoice (invoices : List Invoice) :
    invoicesOf (invoices.map .invoice) = invoices := by
  induction invoices with
  | nil => rfl
  | cons inv invoices ih => rw [List.map_cons, invoicesOf_cons_invoice, ih]

@[simp] theorem invoicesOf_map_line (lines : List InvoiceLine) :
    invoicesOf (lines.map .line) = [] := by
  simp [invoicesOf]

@[simp] theorem linesOf_map_invoice (invoices : List Invoice) :
    linesOf (invoices.map .invoice) = [] := by
  simp [linesOf]

@[simp] theorem linesOf_map_line (lines : List InvoiceLine) :
    linesOf (lines.map .line) = lines := by
  induction lines with
  | nil => rfl
  | cons l lines ih => exact congrArg (l :: ·) ih

@[simp] theorem mem_invoicesOf {rows : List Row} {inv : Invoice} :
    inv ∈ invoicesOf rows ↔ Row.invoice inv ∈ rows := by
  rw [invoicesOf, List.mem_filterMap]
  constructor
  · rintro ⟨r, hr, h⟩
    cases r with
    | invoice inv' =>
      obtain rfl := Option.some.inj h
      exact hr
    | line _ => cases h
  · intro h
    exact ⟨_, h, rfl⟩

section

variable {ι : Type*} {book : InvoiceBook}

theorem rows_opened : (opened book : Store ι Row IssueState).rows =
    book.invoices.map .invoice ++ book.lines.map .line := by
  simp [opened, Store.rows, Function.comp_def]

@[simp] theorem invoicesOf_opened :
    invoicesOf (opened book : Store ι Row IssueState).rows = book.invoices := by
  simp [rows_opened]

@[simp] theorem linesOf_opened : linesOf (opened book : Store ι Row IssueState).rows =
    book.lines := by
  simp [rows_opened]

end

theorem not_conflict_lines {lines : List InvoiceLine} {rows : List Row} :
    ¬ Conflict Row.Clash (lines.map .line) rows := by
  rintro ⟨r, hr, r', -, hclash⟩
  obtain ⟨l, -, rfl⟩ := List.mem_map.1 hr
  cases hclash

/-! ### What a call does in one step -/

section Step

variable {ι : Type*} [DecidableEq ι]

/-- What one step of the calls can do. -/
inductive IssueStep (c : Casing) (s : Settings) (calls : ι → Call) (st : Store ι Row IssueState) :
    TxEvent ι → Store ι Row IssueState → Prop
  /-- The existence check finds an invoice. -/
  | find {i existing} : st.ctl i = .start →
      findInvoice c (invoicesOf (st.visible i)) (calls i).account (calls i).month.label =
        some existing →
      IssueStep c s calls st (.run i) (st.goto i (.found existing))
  /-- The existence check finds none. -/
  | miss {i} : st.ctl i = .start →
      findInvoice c (invoicesOf (st.visible i)) (calls i).account (calls i).month.label = none →
      IssueStep c s calls st (.run i) (st.goto i (.numbering 5))
  | readExisting {i existing} : st.ctl i = .found existing →
      IssueStep c s calls st (.run i) (st.goto i (.returningExisting
        (serialize s existing (linesIn (linesOf (st.visible i)) existing.number))))
  | returnExisting {i doc} : st.ctl i = .returningExisting doc →
      IssueStep c s calls st (.run i) ((st.publish i).goto i (.done (.ok doc)))
  /-- No attempt is left. -/
  | exhaust {i} : st.ctl i = .numbering 0 →
      IssueStep c s calls st (.run i) ((st.drop i).goto i (.done (.error .integrity)))
  /-- The next number is read. -/
  | choose {i attempts} : st.ctl i = .numbering (attempts + 1) →
      IssueStep c s calls st (.run i) (st.goto i (.inserting attempts
        (nextNumber (invoicesOf (st.visible i)) (calls i).month.year).1
        (nextNumber (invoicesOf (st.visible i)) (calls i).month.year).2))
  /-- The invoice does not fit the columns. -/
  | refuse {i attempts seq number} : st.ctl i = .inserting attempts seq number →
      ((calls i).invoice c s number seq).saved = none →
      IssueStep c s calls st (.run i) ((st.drop i).goto i (.done (.error .data)))
  /-- A constraint refuses the invoice, and the next attempt follows. -/
  | clash {i attempts seq number row} : st.ctl i = .inserting attempts seq number →
      ((calls i).invoice c s number seq).saved = some row →
      Conflict Row.Clash [.invoice row] (st.visible i) →
      IssueStep c s calls st (.run i) (st.goto i (.numbering attempts))
  | create {i attempts seq number row} : st.ctl i = .inserting attempts seq number →
      ((calls i).invoice c s number seq).saved = some row →
      ¬ Conflict Row.Clash [.invoice row] st.rows →
      ¬ Conflict Row.Clash [.invoice row] (st.pending.map Prod.snd) →
      IssueStep c s calls st (.run i)
        ((st.addRows i [.invoice row]).goto i (.lining ((calls i).invoice c s number seq)))
  /-- A line does not fit the columns. -/
  | refuseLines {i invoice} : st.ctl i = .lining invoice →
      invoiceLinesOf invoice.number ((calls i).prepared c s) = none →
      IssueStep c s calls st (.run i) ((st.drop i).goto i (.done (.error .data)))
  | createLines {i invoice rows} : st.ctl i = .lining invoice →
      invoiceLinesOf invoice.number ((calls i).prepared c s) = some rows →
      IssueStep c s calls st (.run i)
        ((st.addRows i (rows.map .line)).goto i (.serializing invoice))
  | readNew {i invoice} : st.ctl i = .serializing invoice →
      IssueStep c s calls st (.run i) (st.goto i (.returningNew
        (serialize s invoice (linesIn (linesOf (st.visible i)) invoice.number))))
  | returnNew {i doc} : st.ctl i = .returningNew doc →
      IssueStep c s calls st (.run i) ((st.publish i).goto i (.done (.ok doc)))
  | raise {i err} : st.ctl i = .raising err →
      IssueStep c s calls st (.run i) ((st.drop i).goto i (.done (.error err)))
  /-- The transaction is lost. -/
  | lose {i} : (∀ answer, st.ctl i ≠ .done answer) →
      IssueStep c s calls st (.fail i) ((st.drop i).goto i .lost)

variable {c : Casing} {s : Settings} {calls : ι → Call} {st st' : Store ι Row IssueState}
  {e : TxEvent ι}

/-- Only the invoice and its lines are inserted. -/
theorem insert_cases {call : Call} {k ok dup : IssueState} {rows : List Row}
    (h : issueProg c s call k = .insert rows ok dup) :
    (∃ attempts seq number row, k = .inserting attempts seq number ∧
      (call.invoice c s number seq).saved = some row ∧ rows = [.invoice row] ∧
      ok = .lining (call.invoice c s number seq) ∧ dup = .numbering attempts) ∨
    ∃ invoice lines, k = .lining invoice ∧
      invoiceLinesOf invoice.number (call.prepared c s) = some lines ∧ rows = lines.map .line ∧
      ok = .serializing invoice := by
  cases k
  case numbering attempts => cases attempts <;> cases h
  case inserting attempts seq number =>
    rw [issueProg] at h
    split at h
    · cases h
    · rename_i row hsaved
      obtain ⟨rfl, rfl, rfl⟩ := Instr.insert.inj h
      exact .inl ⟨attempts, seq, number, row, rfl, hsaved, rfl, rfl, rfl⟩
  case lining invoice =>
    rw [issueProg] at h
    split at h
    · cases h
    · rename_i lines hlines
      obtain ⟨rfl, rfl, -⟩ := Instr.insert.inj h
      exact .inr ⟨invoice, lines, rfl, hlines, rfl, rfl⟩
  all_goals cases h

theorem issues_cases (h : (issues c s calls).step st e st') : IssueStep c s calls st e st' := by
  -- each kind of instruction is met in the states that execute it, the others contradict `hprog`
  cases step_cases h with
  | @read i next hprog =>
    cases hctl : st.ctl i <;> rw [hctl] at hprog
    case start =>
      obtain rfl := Instr.read.inj hprog
      dsimp only
      cases hfind :
        findInvoice c (invoicesOf (st.visible i)) (calls i).account (calls i).month.label with
      | some existing => exact .find hctl hfind
      | none => exact .miss hctl hfind
    case found existing =>
      obtain rfl := Instr.read.inj hprog
      exact .readExisting hctl
    case numbering attempts =>
      cases attempts with
      | zero => cases hprog
      | succ attempts =>
        obtain rfl := Instr.read.inj hprog
        exact .choose hctl
    case inserting =>
      rw [issueProg] at hprog
      split at hprog <;> cases hprog
    case lining =>
      rw [issueProg] at hprog
      split at hprog <;> cases hprog
    case serializing =>
      obtain rfl := Instr.read.inj hprog
      exact .readNew hctl
    all_goals cases hprog
  | @dup i rows ok dup hprog hconflict =>
    rcases insert_cases hprog with ⟨attempts, seq, number, row, hctl, hsaved, rfl, -, rfl⟩ |
      ⟨invoice, lines, -, -, rfl, -⟩
    · exact .clash hctl hsaved hconflict
    · exact absurd hconflict not_conflict_lines
  | @insert i rows ok dup hprog hrows hpending =>
    rcases insert_cases hprog with ⟨attempts, seq, number, row, hctl, hsaved, rfl, rfl, -⟩ |
      ⟨invoice, lines, hctl, hlines, rfl, rfl⟩
    · exact .create hctl hsaved hrows hpending
    · exact .createLines hctl hlines
  | @commit i next hprog =>
    cases hctl : st.ctl i <;> rw [hctl] at hprog
    case returningExisting doc =>
      obtain rfl := Instr.commit.inj hprog
      exact .returnExisting hctl
    case returningNew doc =>
      obtain rfl := Instr.commit.inj hprog
      exact .returnNew hctl
    case numbering attempts => cases attempts <;> cases hprog
    case inserting =>
      rw [issueProg] at hprog
      split at hprog <;> cases hprog
    case lining =>
      rw [issueProg] at hprog
      split at hprog <;> cases hprog
    all_goals cases hprog
  | @rollback i next hprog =>
    cases hctl : st.ctl i <;> rw [hctl] at hprog
    case numbering attempts =>
      cases attempts with
      | zero =>
        obtain rfl := Instr.rollback.inj hprog
        exact .exhaust hctl
      | succ attempts => cases hprog
    case inserting attempts seq number =>
      rw [issueProg] at hprog
      split at hprog
      · rename_i hsaved
        obtain rfl := Instr.rollback.inj hprog
        exact .refuse hctl hsaved
      · cases hprog
    case lining invoice =>
      rw [issueProg] at hprog
      split at hprog
      · rename_i hlines
        obtain rfl := Instr.rollback.inj hprog
        exact .refuseLines hctl hlines
      · cases hprog
    case raising err =>
      obtain rfl := Instr.rollback.inj hprog
      exact .raise hctl
    all_goals cases hprog
  | @fail i hprog =>
    refine .lose fun answer hctl => hprog ?_
    rw [hctl, issueProg]

end Step

/-! ### A call by itself -/

section Alone

variable {ι : Type*} [DecidableEq ι] {c : Casing} {s : Settings} {calls : ι → Call} {i : ι}
  {st : Store ι Row IssueState} {book : InvoiceBook}

/-- Steps of one call lead from a state to another. -/
def Alone (c : Casing) (s : Settings) (calls : ι → Call) (i : ι) :
    Store ι Row IssueState → Store ι Row IssueState → Prop :=
  Relation.ReflTransGen fun st st' => (issues c s calls).step st (.run i) st'

/-- The statement executed next. -/
def Next (c : Casing) (s : Settings) (calls : ι → Call) (st : Store ι Row IssueState) (i : ι) :
    Instr Row IssueState := issueProg c s (calls i) (st.ctl i)

theorem Alone.read {next : List Row → IssueState} {st' : Store ι Row IssueState}
    (h : Next c s calls st i = .read next)
    (hrest : Alone c s calls i (st.goto i (next (st.visible i))) st') : Alone c s calls i st st' :=
  .head (step_of_cases (.read h)) hrest

theorem Alone.dup {rows : List Row} {ok dup : IssueState} {st' : Store ι Row IssueState}
    (h : Next c s calls st i = .insert rows ok dup)
    (hconflict : Conflict Row.Clash rows (st.visible i))
    (hrest : Alone c s calls i (st.goto i dup) st') : Alone c s calls i st st' :=
  .head (step_of_cases (.dup h hconflict)) hrest

theorem Alone.insert {rows : List Row} {ok dup : IssueState} {st' : Store ι Row IssueState}
    (h : Next c s calls st i = .insert rows ok dup) (hrows : ¬ Conflict Row.Clash rows st.rows)
    (hpending : ¬ Conflict Row.Clash rows (st.pending.map Prod.snd))
    (hrest : Alone c s calls i ((st.addRows i rows).goto i ok) st') : Alone c s calls i st st' :=
  .head (step_of_cases (.insert h hrows hpending)) hrest

theorem Alone.commit {answer : Except DbError Document}
    (h : Next c s calls st i = .commit (.done answer)) :
    Alone c s calls i st ((st.publish i).goto i (.done answer)) :=
  .single (step_of_cases (.commit h))

theorem Alone.rollback {answer : Except DbError Document}
    (h : Next c s calls st i = .rollback (.done answer)) :
    Alone c s calls i st ((st.drop i).goto i (.done answer)) :=
  .single (step_of_cases (.rollback h))

theorem drop_of_pending (h : st.pending = []) : (st.drop i).pending = [] := by
  simp [Store.drop, h]

theorem visible_of_pending (h : st.pending = []) : st.visible i = st.rows := by
  simp [Store.visible, Store.own, h]

theorem conflict_rows_iff {row : Invoice} {rows : List Row} (h : invoicesOf rows = book.invoices) :
    Conflict Row.Clash [.invoice row] rows ↔ book.create row = none := by
  have hcreate : book.create row = none ↔ ∃ inv ∈ invoicesOf rows, Invoice.Clash inv row := by
    rw [h, InvoiceBook.create]
    split_ifs with hall
    · simpa using hall
    · simpa using hall
  rw [hcreate]
  constructor
  · rintro ⟨r, hr, r', hr', hclash⟩
    obtain rfl := List.mem_singleton.1 hr
    cases r' with
    | line _ => cases hclash
    | invoice inv => exact ⟨inv, mem_invoicesOf.2 hr', Invoice.Clash.symm hclash⟩
  · rintro ⟨inv, hinv, hclash⟩
    exact ⟨_, List.mem_singleton_self _, .invoice inv, mem_invoicesOf.1 hinv, hclash.symm⟩

/-- The attempts to insert the invoice, from `numbering`. -/
theorem alone_allocate {attempts : ℕ} (hctl : st.ctl i = .numbering attempts) (hp : st.pending = [])
    (hbook : invoicesOf st.rows = book.invoices) :
    match allocate book (calls i).month.year ((calls i).invoice c s) attempts with
    | .error err => ∃ st', Alone c s calls i st st' ∧ st'.ctl i = .done (.error err) ∧
        st'.pending = [] ∧ st'.rows = st.rows
    | .ok (inv, book') => ∃ st' row, Alone c s calls i st st' ∧ st'.ctl i = .lining inv ∧
        inv.saved = some row ∧ book.create row = some book' ∧ st'.pending = [(i, .invoice row)] ∧
        st'.rows = st.rows := by
  induction attempts generalizing st with
  | zero =>
    refine ⟨_, .rollback (by rw [Next, hctl, issueProg]), ?_, ?_, ?_⟩
    · simp
    · simpa using drop_of_pending hp
    · simp
  | succ attempts ih =>
    simp only [allocate]
    generalize hnext : nextNumber book.invoices (calls i).month.year = next
    obtain ⟨seq, number⟩ := next
    dsimp only
    have hchosen : ∀ {st'}, Alone c s calls i (st.goto i (.inserting attempts seq number)) st' →
        Alone c s calls i st st' := by
      intro st' h
      refine .read (by rw [Next, hctl, issueProg]) ?_
      rwa [visible_of_pending hp, hbook, hnext]
    -- the number is chosen
    have hctl' : (st.goto i (.inserting attempts seq number)).ctl i =
      .inserting attempts seq number := by
      simp
    generalize hst : st.goto i (.inserting attempts seq number) = st₁ at hchosen hctl'
    have hp₁ : st₁.pending = [] := by rw [← hst]; exact hp
    have hrows₁ : st₁.rows = st.rows := by rw [← hst]; rfl
    cases hsaved : ((calls i).invoice c s number seq).saved with
    | none =>
      -- the error is not one of integrity, so there is no further attempt
      have hprog : Next c s calls st₁ i = .rollback (.done (.error .data)) := by
        rw [Next, hctl', issueProg, hsaved]
      exact ⟨_, hchosen (.rollback hprog), by simp, by simpa using drop_of_pending hp₁,
        by simpa using hrows₁⟩
    | some row =>
      have hprog : Next c s calls st₁ i = .insert [.invoice row]
          (.lining ((calls i).invoice c s number seq)) (.numbering attempts) := by
        rw [Next, hctl', issueProg, hsaved]
      have hiff : _ ↔ book.create row = none := conflict_rows_iff (hrows₁ ▸ hbook)
      cases hcreate : book.create row with
      | none =>
        have hdup : ∀ {st'}, Alone c s calls i (st₁.goto i (.numbering attempts)) st' →
            Alone c s calls i st₁ st' :=
          fun h => .dup hprog (visible_of_pending hp₁ ▸ hiff.2 hcreate) h
        -- the constraint refuses the number, and the next attempt starts from the same rows
        have := @ih (st₁.goto i (.numbering attempts)) (by simp) hp₁ (by simpa [hrows₁] using hbook)
        simp only [hcreate]
        split at this
        · obtain ⟨st', halone, hrest, hpend, hrows⟩ := this
          exact ⟨st', hchosen (hdup halone), hrest, hpend, hrows.trans hrows₁⟩
        · obtain ⟨st', row', halone, hrest, hsv, hcr, hpend, hrows⟩ := this
          exact ⟨st', row', hchosen (hdup halone), hrest, hsv, hcr, hpend, hrows.trans hrows₁⟩
      | some book' =>
        have hnone : ¬ Conflict Row.Clash [.invoice row] st₁.rows := by
          rw [hiff, hcreate]
          exact Option.some_ne_none _
        simp only [hcreate]
        refine ⟨_, row, hchosen (.insert hprog hnone (by simp [hp₁, Conflict]) .refl), by simp,
          hsaved, hcreate, ?_, ?_⟩
        · simp [Store.addRows, hp₁]
        · simpa using hrows₁

theorem alone_serializing {inv row : Invoice} {rows : List InvoiceLine}
    (hctl : st.ctl i = .serializing inv)
    (hp : st.pending = (i, .invoice row) :: rows.map fun l => (i, .line l)) :
    ∃ st', Alone c s calls i st st' ∧ st'.pending = [] ∧
      st'.ctl i = .done (.ok (serialize s inv (linesIn (linesOf st.rows ++ rows) inv.number))) ∧
      st'.rows = st.rows ++ (.invoice row :: rows.map .line) := by
  have hown : st.own i = .invoice row :: rows.map .line := by
    simp [Store.own, hp, List.filter_map, Function.comp_def]
  have hvisible : linesOf (st.visible i) = linesOf st.rows ++ rows := by
    simp [Store.visible, hown]
  refine ⟨_, .read (by rw [Next, hctl, issueProg])
    (.commit (by rw [Next, Store.ctl_goto_self, issueProg])), ?_, ?_, ?_⟩
  · simp [Store.drop, hp, List.filter_map, Function.comp_def]
  · simp [hvisible]
  · simp [hown]

theorem alone_lining {inv row : Invoice} {rows : List InvoiceLine} (hctl : st.ctl i = .lining inv)
    (hp : st.pending = [(i, .invoice row)])
    (hrows : invoiceLinesOf inv.number ((calls i).prepared c s) = some rows) :
    ∃ st', Alone c s calls i st st' ∧ st'.pending = [] ∧
      st'.ctl i = .done (.ok (serialize s inv (linesIn (linesOf st.rows ++ rows) inv.number))) ∧
      st'.rows = st.rows ++ (.invoice row :: rows.map .line) := by
  have hprog : Next c s calls st i =
      .insert (rows.map .line) (.serializing inv) (.raising .integrity) := by
    rw [Next, hctl, issueProg, hrows]
  have hp₁ : ((st.addRows i (rows.map .line)).goto i (.serializing inv)).pending =
      (i, .invoice row) :: rows.map fun l => (i, .line l) := by
    simp [Store.addRows, hp]
  obtain ⟨st', halone, hrest⟩ :=
    @alone_serializing ι _ c s calls i _ _ _ _ Store.ctl_goto_self hp₁
  exact ⟨st', .insert hprog not_conflict_lines not_conflict_lines halone, hrest⟩

theorem bulkCreate_ne_none {rows : List InvoiceLine}
    (h : ∀ l ∈ rows, ∃ inv ∈ book.invoices, inv.number = l.invoice) :
    book.bulkCreate rows ≠ none := by
  rw [InvoiceBook.bulkCreate, dif_pos h]
  exact Option.some_ne_none _

/-- A call nobody interrupts does what `issue` does. -/
theorem exists_run_issue (hctl : st.ctl i = .start) (hp : st.pending = [])
    (hinvoices : invoicesOf st.rows = (calls i).db.book.invoices)
    (hlines : linesOf st.rows = (calls i).db.book.lines) :
    ∃ st', Alone c s calls i st st' ∧ st'.pending = [] ∧
      match (calls i).issue c s with
      | .error err => st'.ctl i = .done (.error err) ∧ st'.rows = st.rows
      | .ok (doc, book') => st'.ctl i = .done (.ok doc) ∧ invoicesOf st'.rows = book'.invoices ∧
          linesOf st'.rows = book'.lines := by
  have hstart : ∀ {st'}, Alone c s calls i (st.goto i
      (match findInvoice c (calls i).db.book.invoices (calls i).account (calls i).month.label with
        | some existing => .found existing
        | none => .numbering 5)) st' → Alone c s calls i st st' := by
    intro st' h
    refine .read (by rw [Next, hctl, issueProg]) ?_
    rwa [visible_of_pending hp, hinvoices]
  cases hfind :
    findInvoice c (calls i).db.book.invoices (calls i).account (calls i).month.label with
  | some existing =>
    simp only [hfind] at hstart
    -- the invoice is returned as it stands
    rw [Call.issue_of_found hfind]
    have hvisible : linesOf ((st.goto i (.found existing)).visible i) =
      (calls i).db.book.lines := by
      rw [visible_of_pending (by exact hp)]
      exact hlines
    refine ⟨_, hstart (.read (by rw [Next, Store.ctl_goto_self, issueProg])
      (.commit (by rw [Next, Store.ctl_goto_self, issueProg]))), ?_, ?_, ?_, ?_⟩
    · simp [Store.drop, hp]
    · simp [hvisible, InvoiceBook.linesOf]
    · simp [Store.own, hp, hinvoices]
    · simp [Store.own, hp, hlines]
  | none =>
    simp only [hfind] at hstart
    rw [Call.issue_of_none hfind]
    have hallocate := @alone_allocate ι _ c s calls i (st.goto i (.numbering 5)) _ _
      Store.ctl_goto_self hp hinvoices
    generalize allocate (calls i).db.book (calls i).month.year ((calls i).invoice c s) 5 = result
      at hallocate ⊢
    rcases result with err | ⟨inv, book⟩
    · obtain ⟨st', halone, hdone, hp', hrows⟩ := hallocate
      exact ⟨st', hstart halone, hp', hdone, hrows⟩
    · obtain ⟨st', row, halone, hlining, hsaved, hcreate, hp', hrows⟩ := hallocate
      obtain ⟨-, hinvoices', hlines'⟩ := InvoiceBook.create_eq_some hcreate
      dsimp only
      cases hof : invoiceLinesOf inv.number ((calls i).prepared c s) with
      | none =>
        have hrollback : Next c s calls st' i = .rollback (.done (.error .data)) := by
          rw [Next, hlining, issueProg, hof]
        refine ⟨_, hstart (halone.trans (Alone.rollback hrollback)), ?_, ?_, ?_⟩
        · simp [Store.drop, hp']
        · simp
        · simpa using hrows
      | some rows =>
        obtain ⟨st'', halone', hp'', hdone, hrows'⟩ := alone_lining hlining hp' hof
        have hnumber : row.number = inv.number := by rw [(Invoice.saved_spec hsaved).1]
        cases hbulk : book.bulkCreate rows with
        | none =>
          -- the lines name the invoice just created
          refine absurd hbulk (bulkCreate_ne_none fun l hl => ⟨row, ?_, ?_⟩)
          · rw [hinvoices']
            exact List.mem_append_right _ (List.mem_singleton_self row)
          · rw [hnumber, invoice_of_mem_invoiceLinesOf hof hl]
        | some book' =>
          obtain ⟨hinvoices'', hlines''⟩ := InvoiceBook.bulkCreate_eq_some hbulk
          have hst : st'.rows = st.rows := hrows
          simp only [hbulk]
          refine ⟨st'', hstart (halone.trans halone'), hp'', ?_, ?_, ?_⟩
          · rw [hdone, hst, hlines, InvoiceBook.linesOf, hlines'', hlines']
          · rw [hrows', hst, hinvoices'', hinvoices', ← hinvoices]
            simp
          · rw [hrows', hst, hlines'', hlines', ← hlines]
            simp

end Alone

end OpenCloud
