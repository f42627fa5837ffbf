import OpenCloud.System.Issuing
import OpenCloud.System.Frozen

/-!
# Issues of one document side by side

Calls of `issue` for the same account and month race for one row.  The existence check comes before
the insert, and the attempts treat every refusal as a taken number.  A call that has made its check
while another was about to write is therefore refused by the constraint on the account and month,
five times, and fails (`overlapping_call_fails`), although the document exists.

Where no call makes its check in that window the calls agree: the first one writes, the others find
what it wrote (`issued_once`).

A run is in one of three phases: no call has begun, one call is writing and the others have not
begun, or the document is there.
-/

namespace OpenCloud

variable {ι : Type*} {c : Casing} {s : Settings} {calls : ι → Call} {book : InvoiceBook} {i : ι}

/-- A call that found no invoice and has not ended. -/
def IssueState.Writing : IssueState → Prop
  | .numbering _ | .inserting _ _ _ | .lining _ | .serializing _ | .returningNew _ | .raising _ =>
    True
  | _ => False

instance : DecidablePred IssueState.Writing := fun k => by
  cases k <;> first | exact isTrue trivial | exact isFalse id

/-- No transaction is lost. -/
def NoneLost : List (TxEvent ι) → Store ι Row IssueState → TxEvent ι → Prop
  | _, _, .run _ => True
  | _, _, .fail _ => False

/-- No transaction is lost, and no call makes its existence check while another is writing. -/
def Undisturbed : List (TxEvent ι) → Store ι Row IssueState → TxEvent ι → Prop
  | _, st, .run i => st.ctl i = .start → ∀ j, ¬ (st.ctl j).Writing
  | _, _, .fail _ => False

/-- Calls for one account and month, on a book that has no invoice for them. -/
structure OneCall (c : Casing) (calls : ι → Call) (book : InvoiceBook) : Prop where
  month : ∀ i j, (calls i).month = (calls j).month
  account : ∀ i j, c.iexact (calls i).account (calls j).account
  named : ∀ inv ∈ book.invoices, inv.Named
  fresh : ∀ i, findInvoice c book.invoices (calls i).account (calls i).month.label = none

/-- The figures of the documents fit their columns, the VAT rate without rounding. -/
structure Fits (c : Casing) (s : Settings) (calls : ι → Call) : Prop where
  rate : HasDecimals 2 (Double.ofRat (vatRate s)).decimal
  invoice : ∀ i number seq, ((calls i).invoice c s number seq).saved ≠ none
  lines : ∀ i number, invoiceLinesOf number ((calls i).prepared c s) ≠ none

/-- The book has at most one new invoice, and every call that has ended returned its document. -/
def OneDocument (s : Settings) (book : InvoiceBook) (st : Store ι Row IssueState) : Prop :=
  (invoicesOf st.rows = book.invoices ∨ ∃ row, invoicesOf st.rows = book.invoices ++ [row]) ∧
    ∀ i answer, st.ctl i = .done answer → ∃ row, invoicesOf st.rows = book.invoices ++ [row] ∧
      answer = .ok (serialize s row (linesIn (linesOf st.rows) row.number))

theorem Fits.saved (h : Fits c s calls) {number : String} {seq : ℕ} {row : Invoice}
    (hsaved : ((calls i).invoice c s number seq).saved = some row) :
    row = (calls i).invoice c s number seq := by
  rw [(saved_invoiceOf hsaved).1, h.rate.quantize_eq]
  rfl

theorem isSome_saved (call : Call) (number number' : String) (seq seq' : ℕ) :
    (call.invoice c s number seq).saved.isSome = (call.invoice c s number' seq').saved.isSome := by
  have hfigures (inv : Invoice) : inv.saved.isSome = ((Numeric.store 18 2 inv.subtotal).isSome &&
      (Numeric.store 5 2 inv.vatRate).isSome && (Numeric.store 18 2 inv.vatAmount).isSome &&
        (Numeric.store 18 2 inv.total).isSome) := by
    simp only [Invoice.saved, Option.bind_eq_bind, Option.pure_def, Option.isSome_bind]
    cases Numeric.store 18 2 inv.subtotal <;> cases Numeric.store 5 2 inv.vatRate <;>
      cases Numeric.store 18 2 inv.vatAmount <;> cases Numeric.store 18 2 inv.total <;> rfl
  rw [hfigures, hfigures]
  rfl

theorem invoiceLinesOf_number (number number' : String) (prepared : Document) :
    invoiceLinesOf number' prepared =
      (invoiceLinesOf number prepared).map (List.map fun l => { l with invoice := number' }) := by
  unfold invoiceLinesOf
  generalize prepared.lines.filter DocumentLine.priced = lines
  induction lines with
  | nil => rfl
  | cons line lines ih =>
    have hline : invoiceLineOf number' line =
        (invoiceLineOf number line).map fun l => { l with invoice := number' } := by
      simp only [invoiceLineOf, Option.bind_eq_bind, Option.pure_def]
      cases Numeric.store 18 2 line.quantity.decimal <;>
        cases Numeric.store 18 4 line.unitPrice.decimal <;>
        cases Numeric.store 18 2 line.amount.decimal <;> rfl
    rw [List.mapM_cons, List.mapM_cons, ih, hline]
    cases invoiceLineOf number line <;> cases lines.mapM (invoiceLineOf number) <;> rfl

/-! ### The document the calls agree on -/

/-- What a call writes on the book. -/
structure Writes (c : Casing) (s : Settings) (call : Call) (book : InvoiceBook) (row : Invoice)
    (lines : List InvoiceLine) : Prop where
  eq : row = call.invoice c s (nextNumber book.invoices call.month.year).2
    (nextNumber book.invoices call.month.year).1
  lines : invoiceLinesOf row.number (call.prepared c s) = some lines

/-- The document of the row written. -/
def written (s : Settings) (book : InvoiceBook) (row : Invoice) (lines : List InvoiceLine) :
    Document :=
  serialize s row (linesIn (book.lines ++ lines) row.number)

namespace Writes

variable {call : Call} {row : Invoice} {lines : List InvoiceLine}

theorem invoice_eq (h : Writes c s call book row lines) :
    call.invoice c s row.number row.numberSeq = row := by
  rw [h.eq]
  rfl

theorem not_clash (h : Writes c s call book row lines) (hnamed : ∀ inv ∈ book.invoices, inv.Named)
    (hfresh : findInvoice c book.invoices call.account call.month.label = none) {old : Invoice}
    (hold : old ∈ book.invoices) : ¬ Invoice.Clash row old := by
  rw [h.eq]
  rintro (hnumber | ⟨haccount, hperiod⟩)
  · exact ne_nextNumber hnamed hold hnumber.symm
  · refine findInvoice_eq_none_iff.1 hfresh old hold ⟨?_, hperiod.symm⟩
    rw [← haccount]
    exact Casing.iexact_refl _ _

theorem find (hone : OneCall c calls book) (h : Writes c s (calls i) book row lines) (j : ι) :
    findInvoice c (book.invoices ++ [row]) (calls j).account (calls j).month.label = some row := by
  have haccount : c.iexact row.account (calls j).account := by
    rw [h.eq]
    exact hone.account i j
  have hperiod : row.period = (calls j).month.label := by
    rw [h.eq, ← hone.month i j]
    rfl
  cases hfind : findInvoice c (book.invoices ++ [row]) (calls j).account (calls j).month.label with
  | none => exact absurd ⟨haccount, hperiod⟩ (findInvoice_eq_none_iff.1 hfind row (by simp))
  | some inv =>
    obtain ⟨hmem, hkey⟩ := findInvoice_spec hfind
    rcases List.mem_append.1 hmem with hmem | hmem
    · exact absurd hkey (findInvoice_eq_none_iff.1 (hone.fresh j) inv hmem)
    · rw [List.mem_singleton.1 hmem]

end Writes

/-! ### The phases -/

variable [DecidableEq ι] {st st' : Store ι Row IssueState} {e : TxEvent ι}

/-- What the writing call has written, where it stands. -/
def Busy (s : Settings) (book : InvoiceBook) (i : ι) (row : Invoice) (lines : List InvoiceLine)
    (pending : List (ι × Row)) : IssueState → Prop
  | .numbering attempts => attempts = 5 ∧ pending = []
  | .inserting _ seq number => seq = row.numberSeq ∧ number = row.number ∧ pending = []
  | .lining invoice => invoice = row ∧ pending = [(i, .invoice row)]
  | .serializing invoice =>
    invoice = row ∧ pending = (i, .invoice row) :: lines.map fun l => (i, .line l)
  | .returningNew doc =>
    doc = written s book row lines ∧ pending = (i, .invoice row) :: lines.map fun l => (i, .line l)
  | _ => False

/-- Where a call stands once the document is there. -/
def Finding (row : Invoice) (doc : Document) : IssueState → Prop
  | .start => True
  | .found existing => existing = row
  | .returningExisting doc' => doc' = doc
  | .done answer => answer = .ok doc
  | _ => False

/-- The phases of a run. -/
inductive Phase (c : Casing) (s : Settings) (calls : ι → Call) (book : InvoiceBook)
    (st : Store ι Row IssueState) : Prop
  /-- No call has made its check. -/
  | waiting (hstart : ∀ j, st.ctl j = .start) (hpending : st.pending = [])
      (hinvoices : invoicesOf st.rows = book.invoices) (hlines : linesOf st.rows = book.lines)
  /-- One call writes, the others have not made their check. -/
  | writing (i : ι) (row : Invoice) (lines : List InvoiceLine)
      (hwrites : Writes c s (calls i) book row lines) (hstart : ∀ j, j ≠ i → st.ctl j = .start)
      (hbusy : Busy s book i row lines st.pending (st.ctl i))
      (hinvoices : invoicesOf st.rows = book.invoices) (hlines : linesOf st.rows = book.lines)
  /-- The document is there. -/
  | issued (i : ι) (row : Invoice) (lines : List InvoiceLine)
      (hwrites : Writes c s (calls i) book row lines)
      (hfinding : ∀ j, Finding row (written s book row lines) (st.ctl j))
      (hpending : st.pending = []) (hinvoices : invoicesOf st.rows = book.invoices ++ [row])
      (hlines : linesOf st.rows = book.lines ++ lines)

/-- The steps a call has left, at most. -/
def IssueState.left : IssueState → ℕ
  | .start => 6
  | .numbering _ => 5
  | .inserting _ _ _ => 4
  | .lining _ => 3
  | .serializing _ | .found _ => 2
  | .returningNew _ | .returningExisting _ | .raising _ => 1
  | .done _ | .lost => 0

/-- A step brings its call nearer to its end, and leaves the others where they are. -/
def Advances (st : Store ι Row IssueState) (e : TxEvent ι) (st' : Store ι Row IssueState) : Prop :=
  ∃ i, e = .run i ∧ (st'.ctl i).left < (st.ctl i).left ∧ ∀ j, j ≠ i → st'.ctl j = st.ctl j

theorem advances_goto {st₁ : Store ι Row IssueState} {k : IssueState} (hctl : st₁.ctl = st.ctl)
    (hleft : k.left < (st.ctl i).left) : Advances st (.run i) (st₁.goto i k) := by
  refine ⟨i, rfl, ?_, fun j hj => ?_⟩
  · rwa [Store.ctl_goto_self]
  · rw [Store.ctl_goto_of_ne hj, hctl]

/-- A step while no call has begun: a call finds nothing, and begins to write. -/
theorem step_of_waiting {es : List (TxEvent ι)} (hone : OneCall c calls book)
    (hfits : Fits c s calls) (hstart : ∀ j, st.ctl j = .start) (hpending : st.pending = [])
    (hinvoices : invoicesOf st.rows = book.invoices) (hlines : linesOf st.rows = book.lines)
    (hc : Undisturbed es st e) (hstep : (issues c s calls).step st e st') :
    Phase c s calls book st' ∧ Advances st e st' := by
  have hvisible (i : ι) : invoicesOf (st.visible i) = book.invoices := by
    rw [visible_of_pending hpending, hinvoices]
  cases issues_cases hstep with
  | @find i existing _ hfind =>
    rw [hvisible, hone.fresh i] at hfind
    cases hfind
  | @miss i hctl hmiss =>
    obtain ⟨lines, hlinesOf⟩ := Option.ne_none_iff_exists'.1 (hfits.lines i
      ((calls i).invoice c s (nextNumber book.invoices (calls i).month.year).2
        (nextNumber book.invoices (calls i).month.year).1).number)
    refine ⟨.writing i _ lines ⟨rfl, hlinesOf⟩ (fun j hj => ?_) ?_ hinvoices hlines, ?_⟩
    · rw [Store.ctl_goto_of_ne hj, hstart j]
    · rw [Store.ctl_goto_self]
      exact ⟨rfl, hpending⟩
    · exact advances_goto rfl (by simp [hctl, IssueState.left])
  | lose _ => exact hc.elim
  | _ => simp_all only [reduceCtorEq]

omit [DecidableEq ι] in
theorem Busy.writing {row : Invoice} {lines : List InvoiceLine} {pending : List (ι × Row)}
    {k : IssueState} (h : Busy s book i row lines pending k) : k.Writing := by
  cases k <;> trivial

/-- A step while a call writes: it goes on, and in the end publishes the document. -/
theorem step_of_writing {es : List (TxEvent ι)} {row : Invoice} {lines : List InvoiceLine}
    (hone : OneCall c calls book) (hfits : Fits c s calls)
    (hwrites : Writes c s (calls i) book row lines) (hstart : ∀ j, j ≠ i → st.ctl j = .start)
    (hbusy : Busy s book i row lines st.pending (st.ctl i))
    (hinvoices : invoicesOf st.rows = book.invoices) (hlines : linesOf st.rows = book.lines)
    (hc : Undisturbed es st e) (hstep : (issues c s calls).step st e st') :
    Phase c s calls book st' ∧ Advances st e st' := by
  obtain rfl : e = .run i := by
    cases e with
    | fail _ => exact hc.elim
    | run j =>
      -- another call would make its check now
      by_contra hne
      exact hc (hstart j fun hj => hne (hj ▸ rfl)) i hbusy.writing
  have hothers {st₁ : Store ι Row IssueState} {k : IssueState} (h : st₁.ctl = st.ctl) (j : ι)
      (hj : j ≠ i) : (st₁.goto i k).ctl j = .start := by
    rw [Store.ctl_goto_of_ne hj, h, hstart j hj]
  cases issues_cases hstep with
  | choose hctl =>
    rw [hctl] at hbusy
    obtain ⟨-, hpending⟩ := hbusy
    refine ⟨.writing i row lines hwrites (hothers rfl) ?_ hinvoices hlines,
      advances_goto rfl (by simp [hctl, IssueState.left])⟩
    rw [Store.ctl_goto_self, visible_of_pending hpending, hinvoices, hwrites.eq]
    exact ⟨rfl, rfl, hpending⟩
  | refuse _ hrefuse => exact absurd hrefuse (hfits.invoice _ _ _)
  | clash hctl hsaved hconflict =>
    rw [hctl] at hbusy
    obtain ⟨rfl, rfl, hpending⟩ := hbusy
    -- the number was chosen from these rows, so none of them has it
    rw [hfits.saved hsaved, hwrites.invoice_eq, visible_of_pending hpending] at hconflict
    obtain ⟨r, hr, r', hr', hclash⟩ := hconflict
    obtain rfl := List.mem_singleton.1 hr
    cases r' with
    | line _ => cases hclash
    | invoice old =>
      have hold : old ∈ book.invoices := hinvoices ▸ mem_invoicesOf.2 hr'
      exact absurd hclash (hwrites.not_clash hone.named (hone.fresh i) hold)
  | create hctl hsaved _ _ =>
    rw [hctl] at hbusy
    obtain ⟨rfl, rfl, hpending⟩ := hbusy
    rw [hfits.saved hsaved, hwrites.invoice_eq]
    refine ⟨.writing i row lines hwrites (hothers rfl) ?_ hinvoices hlines,
      advances_goto rfl (by simp [hctl, IssueState.left])⟩
    rw [Store.ctl_goto_self]
    exact ⟨rfl, by simp [Store.addRows, hpending]⟩
  | refuseLines _ hrefuse => exact absurd hrefuse (hfits.lines _ _)
  | createLines hctl hof =>
    rw [hctl] at hbusy
    obtain ⟨rfl, hpending⟩ := hbusy
    obtain rfl := Option.some.inj (hwrites.lines.symm.trans hof)
    refine ⟨.writing i _ lines hwrites (hothers rfl) ?_ hinvoices hlines,
      advances_goto rfl (by simp [hctl, IssueState.left])⟩
    rw [Store.ctl_goto_self]
    exact ⟨rfl, by simp [Store.addRows, hpending]⟩
  | readNew hctl =>
    rw [hctl] at hbusy
    obtain ⟨rfl, hpending⟩ := hbusy
    refine ⟨.writing i _ lines hwrites (hothers rfl) ?_ hinvoices hlines,
      advances_goto rfl (by simp [hctl, IssueState.left])⟩
    -- the call sees the rows of its own transaction
    have hvisible : linesOf (st.visible i) = book.lines ++ lines := by
      simp [Store.visible, Store.own, hpending, hlines, List.filter_map, Function.comp_def]
    rw [Store.ctl_goto_self, hvisible]
    exact ⟨rfl, hpending⟩
  | returnNew hctl =>
    rw [hctl] at hbusy
    obtain ⟨rfl, hpending⟩ := hbusy
    have hown : st.own i = .invoice row :: lines.map .line := by
      simp [Store.own, hpending, List.filter_map, Function.comp_def]
    refine ⟨.issued i row lines hwrites (fun j => ?_) ?_ ?_ ?_,
      advances_goto rfl (by simp [hctl, IssueState.left])⟩
    · by_cases hj : j = i
      · rw [hj, Store.ctl_goto_self]
        rfl
      · rw [Store.ctl_goto_of_ne hj, Store.ctl_publish, hstart j hj]
        trivial
    · simp [Store.drop, hpending, List.filter_map, Function.comp_def]
    · simp [hown, hinvoices]
    · simp [hown, hlines]
  | _ => simp_all [Busy]

/-- A step when the document is there: a call finds it. -/
theorem step_of_issued {es : List (TxEvent ι)} {row : Invoice} {lines : List InvoiceLine}
    (hone : OneCall c calls book) (hwrites : Writes c s (calls i) book row lines)
    (hfinding : ∀ j, Finding row (written s book row lines) (st.ctl j)) (hpending : st.pending = [])
    (hinvoices : invoicesOf st.rows = book.invoices ++ [row])
    (hlines : linesOf st.rows = book.lines ++ lines)
    (hc : Undisturbed es st e) (hstep : (issues c s calls).step st e st') :
    Phase c s calls book st' ∧ Advances st e st' := by
  have hown (j : ι) : st.own j = [] := by simp [Store.own, hpending]
  -- a step of `j` that leaves the rows as they are
  have hkeep {st₁ : Store ι Row IssueState} {j : ι} {k : IssueState} (hctl : st₁.ctl = st.ctl)
      (hrows : st₁.rows = st.rows) (hp : st₁.pending = [])
      (hk : Finding row (written s book row lines) k) : Phase c s calls book (st₁.goto j k) := by
    refine .issued i row lines hwrites (fun j' => ?_) hp ?_ ?_
    · by_cases hj : j' = j
      · rw [hj, Store.ctl_goto_self]
        exact hk
      · rw [Store.ctl_goto_of_ne hj, hctl]
        exact hfinding j'
    · rw [Store.rows_goto, hrows, hinvoices]
    · rw [Store.rows_goto, hrows, hlines]
  cases issues_cases hstep with
  | @find j existing hctl hfind =>
    rw [visible_of_pending hpending, hinvoices, hwrites.find hone j] at hfind
    obtain rfl := Option.some.inj hfind
    exact ⟨hkeep rfl rfl hpending rfl, advances_goto rfl (by simp [hctl, IssueState.left])⟩
  | @miss j _ hmiss =>
    rw [visible_of_pending hpending, hinvoices, hwrites.find hone j] at hmiss
    cases hmiss
  | @readExisting j existing hctl =>
    have hfound := hfinding j
    rw [hctl] at hfound
    obtain rfl : existing = row := hfound
    refine ⟨hkeep rfl rfl hpending ?_, advances_goto rfl (by simp [hctl, IssueState.left])⟩
    rw [visible_of_pending hpending, hlines]
    rfl
  | @returnExisting j doc hctl =>
    have hfound := hfinding j
    rw [hctl] at hfound
    obtain rfl : doc = written s book row lines := hfound
    refine ⟨hkeep rfl ?_ (drop_of_pending hpending) rfl,
      advances_goto rfl (by simp [hctl, IssueState.left])⟩
    rw [Store.rows_publish, hown, List.append_nil]
  | lose _ => exact hc.elim
  | _ =>
    -- the other steps start where no call that finds the document is
    exfalso
    have hfound := hfinding (by assumption)
    simp_all [Finding]

/-! ### Runs -/

/-- A call that has not ended can go on, unless it waits for the row of another. -/
theorem exists_step_of_ctl (hopen : ∀ answer, st.ctl i ≠ .done answer) (hlost : st.ctl i ≠ .lost)
    (hfree : ∀ attempts seq number, st.ctl i = .inserting attempts seq number → st.pending = []) :
    ∃ st', (issues c s calls).step st (.run i) st' := by
  cases hprog : issueProg c s (calls i) (st.ctl i) with
  | read next => exact ⟨_, step_of_cases (.read hprog)⟩
  | insert rows ok dup =>
    by_cases hconflict : Conflict Row.Clash rows st.rows
    · exact ⟨_, step_of_cases (.dup hprog (conflict_append_right.2 (.inl hconflict)))⟩
    · refine ⟨_, step_of_cases (.insert hprog hconflict ?_)⟩
      rcases insert_cases hprog with ⟨attempts, seq, number, _, hctl, -⟩ | ⟨_, lines, -, -, rfl, -⟩
      · rw [hfree attempts seq number hctl]
        rintro ⟨_, -, _, hr', -⟩
        cases hr'
      · exact not_conflict_lines
  | commit next => exact ⟨_, step_of_cases (.commit hprog)⟩
  | rollback next => exact ⟨_, step_of_cases (.rollback hprog)⟩
  | halt =>
    exfalso
    cases hctl : st.ctl i <;> rw [hctl] at hprog
    case numbering attempts => cases attempts <;> cases hprog
    case inserting =>
      rw [issueProg] at hprog
      split at hprog <;> cases hprog
    case lining =>
      rw [issueProg] at hprog
      split at hprog <;> cases hprog
    case done answer => exact hopen answer hctl
    case lost => exact hlost hctl
    all_goals cases hprog

/-- While a call has not ended, some call can go on. -/
theorem Phase.exists_step {es : List (TxEvent ι)} (h : Phase c s calls book st)
    (hopen : ∀ answer, st.ctl i ≠ .done answer) :
    ∃ e st', Undisturbed es st e ∧ (issues c s calls).step st e st' := by
  cases h with
  | waiting hstart hpending _ _ =>
    obtain ⟨st', hstep⟩ := @exists_step_of_ctl ι c s calls i _ st hopen
      (by simp [hstart]) (fun _ _ _ _ => hpending)
    refine ⟨.run i, st', fun _ j hj => ?_, hstep⟩
    rw [hstart j] at hj
    exact hj
  | writing w row lines _ hstart hbusy _ _ =>
    obtain ⟨st', hstep⟩ := @exists_step_of_ctl ι c s calls w _ st
      (fun answer hctl => by simp [hctl, Busy] at hbusy) (fun hctl => by simp [hctl, Busy] at hbusy)
      (fun attempts seq number hctl => by rw [hctl] at hbusy; exact hbusy.2.2)
    refine ⟨.run w, st', fun hctl => ?_, hstep⟩
    rw [hctl] at hbusy
    exact hbusy.elim
  | issued w row lines _ hfinding hpending _ _ =>
    obtain ⟨st', hstep⟩ := @exists_step_of_ctl ι c s calls i _ st hopen
      (fun hctl => by simpa [hctl, Finding] using hfinding i) (fun _ _ _ _ => hpending)
    refine ⟨.run i, st', fun _ j hj => ?_, hstep⟩
    have hfound := hfinding j
    cases hctl : st.ctl j <;> rw [hctl] at hfound hj <;> first | exact hj | exact hfound

/-- The phase says what the calls returned. -/
theorem Phase.oneDocument (h : Phase c s calls book st) : OneDocument s book st := by
  cases h with
  | waiting hstart _ hinvoices _ =>
    refine ⟨.inl hinvoices, fun j answer hctl => ?_⟩
    rw [hstart j] at hctl
    cases hctl
  | writing w row lines _ hstart hbusy hinvoices _ =>
    refine ⟨.inl hinvoices, fun j answer hctl => ?_⟩
    by_cases hj : j = w
    · rw [← hj, hctl] at hbusy
      exact hbusy.elim
    · rw [hstart j hj] at hctl
      cases hctl
  | issued w row lines _ hfinding _ hinvoices hlines =>
    refine ⟨.inr ⟨row, hinvoices⟩, fun j answer hctl => ⟨row, hinvoices, ?_⟩⟩
    have hfound := hfinding j
    rw [hctl] at hfound
    rw [hlines]
    exact hfound

/-- In a run in which no call makes its check while another is writing, calls for one account and
month create one invoice at most, and every call that has ended returned its document.  Each call
takes six steps at most, and while one has not ended there is a step to take. -/
theorem issued_once {es : List (TxEvent ι)} (hone : OneCall c calls book) (hfits : Fits c s calls)
    (h : (issues c s calls).Run Undisturbed (opened book) es st) :
    OneDocument s book st ∧ (∀ i, es.count (.run i) ≤ 6) ∧
      ∀ i, (∀ answer, st.ctl i ≠ .done answer) →
        ∃ e st', Undisturbed es st e ∧ (issues c s calls).step st e st' := by
  have hinv : Phase c s calls book st ∧ ∀ i, es.count (.run i) + (st.ctl i).left ≤ 6 := by
    refine h.invariant (I := fun es st => Phase c s calls book st ∧
      ∀ i, es.count (.run i) + (st.ctl i).left ≤ 6) ?_ ?_
    · refine ⟨.waiting (fun _ => rfl) rfl invoicesOf_opened linesOf_opened, fun i => ?_⟩
      simp [opened, IssueState.left]
    · rintro es st e st' ⟨hphase, hcount⟩ hc hstep
      obtain ⟨hphase', i, rfl, hleft, hothers⟩ : Phase c s calls book st' ∧ Advances st e st' := by
        cases hphase with
        | waiting hstart hpending hinvoices hlines =>
          exact step_of_waiting hone hfits hstart hpending hinvoices hlines hc hstep
        | writing w row lines hwrites hstart hbusy hinvoices hlines =>
          exact step_of_writing hone hfits hwrites hstart hbusy hinvoices hlines hc hstep
        | issued w row lines hwrites hfinding hpending hinvoices hlines =>
          exact step_of_issued hone hwrites hfinding hpending hinvoices hlines hc hstep
      refine ⟨hphase', fun j => ?_⟩
      have hj := hcount j
      by_cases hji : j = i
      · subst hji
        rw [List.count_append, List.count_singleton_self]
        omega
      · have hne : (TxEvent.run i : TxEvent ι) ≠ .run j := fun heq => hji (TxEvent.run.inj heq).symm
        rw [List.count_append, List.count_singleton, beq_false_of_ne hne, hothers j hji]
        simpa using hj
  exact ⟨hinv.1.oneDocument,
    fun i => by have := hinv.2 i; omega, fun i hopen => hinv.1.exists_step hopen⟩

/-- Two calls for one account and month. -/
def twice : Bool → Call := fun _ => augustCall "Acme"

theorem oneCall_twice : OneCall .ascii twice .empty where
  month _ _ := rfl
  account _ _ := rfl
  named inv hinv := by cases hinv
  fresh i := by cases i <;> decide +kernel

theorem fits_twice : Fits .ascii plainSettings twice where
  rate := ⟨0, by decide +kernel⟩
  invoice i number seq := by
    rw [← Option.isSome_iff_ne_none, isSome_saved (twice i) number "" seq 0]
    cases i <;> decide +kernel
  lines i number := by
    rw [← Option.isSome_iff_ne_none, invoiceLinesOf_number "" number, Option.isSome_map]
    cases i <;> decide +kernel

instance [Fintype ι] (es : List (TxEvent ι)) (st : Store ι Row IssueState) (e : TxEvent ι) :
    Decidable (Undisturbed es st e) :=
  match e with
  | .run i => inferInstanceAs (Decidable (st.ctl i = .start → ∀ j, ¬ (st.ctl j).Writing))
  | .fail _ => isFalse id

omit [DecidableEq ι] in
instance (es : List (TxEvent ι)) (st : Store ι Row IssueState) (e : TxEvent ι) :
    Decidable (NoneLost es st e) :=
  match e with
  | .run _ => isTrue trivial
  | .fail _ => isFalse id

/-- The second call comes after the first. -/
theorem issued_once_of_one_after_the_other :
    ∃ st, (issues .ascii plainSettings twice).Run Undisturbed (opened .empty)
        (List.replicate 6 (.run false) ++ List.replicate 3 (.run true)) st ∧
      st.ctl true = st.ctl false ∧ (st.ctl true).left = 0 ∧ (invoicesOf st.rows).length = 1 ∧
      OneDocument plainSettings .empty st := by
  have hplay : (playIssues .ascii plainSettings twice Undisturbed .empty
      (List.replicate 6 (.run false) ++ List.replicate 3 (.run true))).map
      (fun st =>
        (decide (st.ctl true = st.ctl false), (st.ctl true).left, (invoicesOf st.rows).length)) =
        some (true, 0, 1) := by decide +kernel
  obtain ⟨st, hst, heq⟩ := Option.map_eq_some_iff.1 hplay
  simp only [Prod.mk.injEq, decide_eq_true_eq] at heq
  have hrun := System.Run.of_exec hst
  exact ⟨st, hrun, heq.1, heq.2.1, heq.2.2, (issued_once oneCall_twice fits_twice hrun).1⟩

/-- Both calls make their check, the first writes the document, and the second fails. -/
theorem overlapping_call_fails :
    ∃ st, (issues .ascii plainSettings twice).Run NoneLost (opened .empty)
        ([.run false, .run true] ++ List.replicate 5 (.run false) ++ List.replicate 11 (.run true))
          st ∧
      (st.ctl false).left = 0 ∧ st.ctl true = .done (.error .integrity) ∧
      (invoicesOf st.rows).length = 1 ∧ ¬ OneDocument plainSettings .empty st := by
  have hplay : (playIssues .ascii plainSettings twice NoneLost .empty
      ([.run false, .run true] ++ List.replicate 5 (.run false) ++
        List.replicate 11 (.run true))).map
      (fun st => ((st.ctl false).left, st.ctl true, (invoicesOf st.rows).length)) =
        some (0, .done (.error .integrity), 1) := by decide +kernel
  obtain ⟨st, hst, heq⟩ := Option.map_eq_some_iff.1 hplay
  simp only [Prod.mk.injEq] at heq
  refine ⟨st, System.Run.of_exec hst, heq.1, heq.2.1, heq.2.2, fun ⟨_, hdone⟩ => ?_⟩
  obtain ⟨row, -, hok⟩ := hdone true _ heq.2.1
  cases hok

end OpenCloud
