import OpenCloud.Billing.Breakdown

/-!
# Whose measurements an account's bill is drawn from

`resolveAccount` gives an account that was never measured the empty domain id, which in the table
of measurements is the mark of an unattributed row.  The page filters such an account's rows by name
(`inScope`); `draft` filters by the domain id alone.

`BillFromOwnRows` is what a bill should be.  Where the document shown or issued is a draft, it stays
the same whatever the rows of others hold (`SnapshotTable.retold`); where it is an invoice from
before, that is an invoice of the account's domain.  `bill_from_own_rows_iff` says exactly when it
is so, and `foreign_rows_invoiced` is a bill for rows of nobody.
-/

namespace OpenCloud

/-- No measurement carries the name. -/
def NeverMeasured (c : Casing) (snapshots : SnapshotTable) (name : String) : Prop :=
  ∀ row ∈ snapshots.rows, ¬ c.iexact row.account (strip name)

/-- The row is of the domain of the account, or of its name where there is no domain. -/
def Belongs (c : Casing) (account domainId : String) (row : UsageSnapshot) : Prop :=
  (domainId ≠ "" ∧ row.domainId = domainId) ∨ (domainId = "" ∧ c.iexact row.account account)

instance (c : Casing) (account domainId : String) : DecidablePred (Belongs c account domainId) :=
  fun _ => inferInstanceAs (Decidable (_ ∨ _))

/-- Every unattributed row of the month carries the name. -/
def UnattributedAre (c : Casing) (snapshots : SnapshotTable) (m : Month) (name : String) : Prop :=
  ∀ row ∈ snapshots.rows, row.domainId = "" → m.Covers row.takenOn → c.iexact row.account name

/-- A row with other figures, unless it is one of these. -/
def UsageSnapshot.retold (own : UsageSnapshot → Prop) [DecidablePred own]
    (tell : UsageSnapshot → Measurements) (row : UsageSnapshot) : UsageSnapshot :=
  if own row then row else { row with toMeasurements := tell row }

/-- A table of which only these rows are certain: of the others some are left out, and the figures
are other ones. -/
def SnapshotTable.retold (own : UsageSnapshot → Prop) [DecidablePred own]
    (keep : UsageSnapshot → Bool) (tell : UsageSnapshot → Measurements)
    (snapshots : SnapshotTable) :
    SnapshotTable where
  rows := (snapshots.rows.filter fun row => own row ∨ keep row = true).map
    (UsageSnapshot.retold own tell)
  unique := by
    refine List.pairwise_map.2 ((snapshots.unique.filter _).imp fun hab hkey => hab ?_)
    unfold UsageSnapshot.retold at hkey
    split_ifs at hkey <;> exact hkey

/-- The tables, with the rows of others retold. -/
def Db.retold (own : UsageSnapshot → Prop) [DecidablePred own] (keep : UsageSnapshot → Bool)
    (tell : UsageSnapshot → Measurements) (db : Db) : Db :=
  { db with usageSnapshots := db.usageSnapshots.retold own keep tell }

/-- The invoice is of the account's domain; one without a domain is for all unattributed rows, so
each of them has to carry the name. -/
def OwnInvoice (c : Casing) (db : Db) (account domainId : String) (m : Month) (inv : Invoice) :
    Prop :=
  inv.domainId = domainId ∧ (domainId = "" → UnattributedAre c db.usageSnapshots m account)

/-- The month of the account is drawn from the account's measurements alone. -/
structure BillFromOwnRows (c : Casing) (s : Settings) (name : String) (m : Month) (db : Db)
    (months : ℕ) (today : Date) (now : Instant) (email account domainId : String) : Prop where
  /-- The page shows an invoice of the account, or a draft that no other row has a part in. -/
  shown : ∀ page, accountBillingGet c s name m db months = .ok page →
    (∀ inv ∈ db.book.invoices, page.invoice.number = some inv.number →
      OwnInvoice c db account domainId m inv) ∧
    (page.invoice.number = none → ∀ keep tell, ∃ page',
      accountBillingGet c s name m (db.retold (Belongs c account domainId) keep tell) months =
        .ok page' ∧ page'.invoice = page.invoice)
  /-- So does an issue request, which no other row has a part in either. -/
  posted : ∀ reply, (accountInvoicePost c s name m db today now email).1 = .ok reply →
    ∀ inv ∈ db.book.invoices, reply.data.number = some inv.number →
      OwnInvoice c db account domainId m inv
  drawn : ∀ keep tell,
    (accountInvoicePost c s name m (db.retold (Belongs c account domainId) keep tell) today now
      email).1 = (accountInvoicePost c s name m db today now email).1
  /-- The page of a name that was never measured shows no lines. -/
  empty : NeverMeasured c db.usageSnapshots name →
    ∀ page, accountBillingGet c s name m db months = .ok page → page.invoice.lines = []
  /-- Issuing for a name that was never measured is refused: with `nothing_to_invoice`, unless one
  of the checks before that one refuses it. -/
  refused : NeverMeasured c db.usageSnapshots name →
    ∃ err, (accountInvoicePost c s name m db today now email).1 = .error (.app err) ∧
      (¬ today < m.first → (draft c s db account domainId m).missingRequisites = [] →
        err.code = "nothing_to_invoice")

section

variable {c : Casing} {snapshots : SnapshotTable} {name account domainId : String} {m : Month}

/-- What the resolver answers: the newest measurement of the name, or the name itself. -/
theorem resolveAccount_cases (h : resolveAccount c snapshots name = .ok (account, domainId)) :
    (∃ latest ∈ snapshots.rows, newestMeasurement c snapshots (strip name) = some latest ∧
      c.iexact latest.account (strip name) ∧ account = latest.account ∧
        domainId = latest.domainId) ∨
    (newestMeasurement c snapshots (strip name) = none ∧ account = strip name ∧ domainId = "" ∧
      NeverMeasured c snapshots name) := by
  unfold resolveAccount at h
  dsimp only at h
  split at h
  · cases h
  · split at h
    · rename_i latest hlatest
      obtain ⟨rfl, rfl⟩ := Prod.mk.inj (Except.ok.inj h)
      obtain ⟨hmem, hname⟩ := List.mem_filter.1 (Table.mem_of_firstBy hlatest)
      exact .inl ⟨latest, hmem, hlatest, by simpa using hname, rfl, rfl⟩
    · rename_i hnone
      obtain ⟨rfl, rfl⟩ := Prod.mk.inj (Except.ok.inj h)
      refine .inr ⟨hnone, rfl, rfl, fun row hrow => ?_⟩
      have hempty := Table.firstBy_eq_none_iff.1 hnone
      rw [List.filter_eq_nil_iff] at hempty
      simpa using hempty row hrow

theorem iexact_of_resolveAccount (h : resolveAccount c snapshots name = .ok (account, domainId)) :
    c.iexact account (strip name) := by
  rcases resolveAccount_cases h with ⟨latest, -, -, hname, rfl, -⟩ | ⟨-, rfl, -, -⟩
  · exact hname
  · exact Casing.iexact_refl c _

theorem mem_draftRows {row : UsageSnapshot} : row ∈ draftRows snapshots domainId m ↔
    row ∈ snapshots.rows ∧ row.domainId = domainId ∧ m.Covers row.takenOn := by
  simp [draftRows]

theorem draft_of_no_rows (c : Casing) (s : Settings) {db : Db} (account : String)
    (h : draftRows db.usageSnapshots domainId m = []) :
    (draft c s db account domainId m).lines = [] ∧
      (draft c s db account domainId m).daysMeasured = 0 := by
  simp only [draft, draftLines, draftCost, h]
  exact ⟨rfl, rfl⟩

theorem refusal_of_no_days {document : Document} (h : document.daysMeasured = 0) :
    ∃ err, refusal document = some err ∧
      (document.missingRequisites = [] → err.code = "nothing_to_invoice") := by
  unfold refusal
  split_ifs with hmissing
  · exact ⟨_, rfl, fun hnone => absurd hnone hmissing⟩
  · exact ⟨_, rfl, fun _ => rfl⟩

/-! ### The rows of others -/

section

variable {own : UsageSnapshot → Prop} [DecidablePred own] {keep : UsageSnapshot → Bool}
  {tell : UsageSnapshot → Measurements} {row latest : UsageSnapshot}

theorem retold_of_own (h : own row) : row.retold own tell = row := if_pos h

@[simp] theorem takenOn_retold : (row.retold own tell).takenOn = row.takenOn := by
  unfold UsageSnapshot.retold
  split_ifs <;> rfl

@[simp] theorem account_retold : (row.retold own tell).account = row.account := by
  unfold UsageSnapshot.retold
  split_ifs <;> rfl

@[simp] theorem domainId_retold : (row.retold own tell).domainId = row.domainId := by
  unfold UsageSnapshot.retold
  split_ifs <;> rfl

theorem filter_name_retold : ((snapshots.retold own keep tell).rows.filter fun row =>
    c.iexact row.account name) =
      ((snapshots.rows.filter fun row => c.iexact row.account name).filter
      fun row => own row ∨ keep row = true).map (UsageSnapshot.retold own tell) := by
  have hname : ((fun row : UsageSnapshot => decide (c.iexact row.account name)) ∘
      UsageSnapshot.retold own tell) = fun row => decide (c.iexact row.account name) := by
    funext row
    rw [Function.comp_apply, account_retold]
  rw [SnapshotTable.retold, List.filter_map, hname, List.filter_filter, List.filter_filter]
  simp only [Bool.and_comm]

instance : Std.Total fun a b : UsageSnapshot => b.takenOn ≤ a.takenOn :=
  ⟨fun a b => Nat.le_total b.takenOn.key a.takenOn.key⟩

instance : IsTrans UsageSnapshot fun a b => b.takenOn ≤ a.takenOn :=
  ⟨fun _ _ _ hab hbc => Nat.le_trans hbc hab⟩

theorem newestMeasurement_retold (h : newestMeasurement c snapshots name = some latest)
    (hown : own latest) :
    newestMeasurement c (snapshots.retold own keep tell) name = some latest := by
  unfold newestMeasurement at *
  rw [filter_name_retold, Table.firstBy_map_filter (fun a b => by simp) h
    (by simpa using .inl hown), retold_of_own hown]

theorem newestMeasurement_retold_none (h : newestMeasurement c snapshots name = none) :
    newestMeasurement c (snapshots.retold own keep tell) name = none := by
  unfold newestMeasurement at *
  rw [Table.firstBy_eq_none_iff] at *
  rw [filter_name_retold, h]
  rfl

/-- The account is found as before. -/
theorem resolveAccount_retold (h : resolveAccount c snapshots name = .ok (account, domainId)) :
    resolveAccount c (snapshots.retold (Belongs c account domainId) keep tell) name =
      .ok (account, domainId) := by
  have hcases := resolveAccount_cases h
  unfold resolveAccount at h ⊢
  dsimp only at h ⊢
  split_ifs at h ⊢ with hblank
  rcases hcases with ⟨latest, -, hlatest, hname, haccount, hdomain⟩ | ⟨hnone, -⟩
  · have hbelongs : Belongs c account domainId latest := by
      by_cases hd : domainId = ""
      · exact .inr ⟨hd, haccount ▸ Casing.iexact_refl c _⟩
      · exact .inl ⟨hd, hdomain.symm⟩
    rw [newestMeasurement_retold hlatest hbelongs]
    rw [hlatest] at h
    exact h
  · rw [newestMeasurement_retold_none hnone]
    rw [hnone] at h
    exact h

theorem draftRows_retold : draftRows (snapshots.retold own keep tell) domainId m =
    ((draftRows snapshots domainId m).filter fun row => own row ∨ keep row = true).map
      (UsageSnapshot.retold own tell) := by
  have hkey :
    ((fun row : UsageSnapshot => decide (row.domainId = domainId ∧ m.Covers row.takenOn)) ∘
      UsageSnapshot.retold own tell) =
        fun row : UsageSnapshot => decide (row.domainId = domainId ∧ m.Covers row.takenOn) := by
    funext row
    rw [Function.comp_apply, domainId_retold, takenOn_retold]
  rw [draftRows, SnapshotTable.retold, List.filter_map, hkey, List.filter_comm]
  rfl

theorem draftRows_retold_of_own (h : ∀ row ∈ draftRows snapshots domainId m, own row) :
    draftRows (snapshots.retold own keep tell) domainId m = draftRows snapshots domainId m := by
  have hall : (draftRows snapshots domainId m).filter (fun row => own row ∨ keep row = true) =
      draftRows snapshots domainId m :=
    List.filter_eq_self.2 fun row hrow => by simpa using .inl (h row hrow)
  rw [draftRows_retold, hall]
  exact (List.map_congr_left fun row hrow => retold_of_own (h row hrow)).trans (List.map_id _)

theorem draft_retold (s : Settings) {db : Db}
    (h : draftRows (db.usageSnapshots.retold own keep tell) domainId m =
      draftRows db.usageSnapshots domainId m) :
    draft c s (db.retold own keep tell) account domainId m = draft c s db account domainId m := by
  simp only [draft, draftLines, draftCost, Db.retold, h]

end

/-! ### Rows that have a part in a draft -/

/-- More processors than any quantity. -/
def manyVcpus (n : ℕ) : Measurements := ⟨0, 0, n, 0, 0, 0, 0, 0, 0, 0⟩

/-- The quantity of a resource on a document. -/
def Document.quantityOf (document : Document) (r : Resource) : Double :=
  ((document.lines.find? fun l => l.resource = r).map fun l => l.quantity).getD (.ofRat 0)

theorem quantityOf_draft (c : Casing) (s : Settings) (db : Db) (account domainId : String)
    (m : Month) (r : Resource) : (draft c s db account domainId m).quantityOf r =
      (draftCost c db account domainId m).quantityOf r := by
  rw [Document.quantityOf, draft, draftLines, List.find?_map, Cost.quantityOf, Option.map_map]
  rfl

theorem lt_rnd_quantize {x q : ℚ} (h : 2 * |q| + 1 ≤ x) : q < rnd (quantize 2 x) := by
  have hq := le_abs_self q
  have habs := abs_nonneg q
  have hround := abs_quantize_sub_le 2 x
  rw [abs_le] at hround
  norm_num at hround
  have hpos : 0 ≤ quantize 2 x := by linarith
  have hfloat := abs_rnd_sub_le (quantize 2 x)
  rw [abs_of_nonneg hpos, abs_le] at hfloat
  norm_num at hfloat
  linarith

/-- If one of the rows is not certain, no quantity of processors is. -/
theorem exists_quantityOf_ne {own : UsageSnapshot → Prop} [DecidablePred own]
    {rows : List UsageSnapshot} {row : UsageSnapshot} (hrow : row ∈ rows) (hforeign : ¬ own row)
    (settings : List AccountSettings) (rates : RateMap) (q : Double) :
    ∃ n,
      (costOf settings (rows.map (UsageSnapshot.retold own fun _ => manyVcpus n)) rates).quantityOf
      .vcpu ≠ q := by
  have hdays : 0 < measuredDays rows :=
    List.length_pos_iff.2 (daysOf_ne_nil (List.ne_nil_of_mem hrow))
  refine ⟨measuredDays rows * (⌈2 * |q.val|⌉₊ + 1), fun heq => ?_⟩
  set n := measuredDays rows * (⌈2 * |q.val|⌉₊ + 1) with hn
  set retold := rows.map (UsageSnapshot.retold own fun _ => manyVcpus n) with hretold
  have hsame : measuredDays retold = measuredDays rows := by
    rw [hretold, measuredDays, List.map_map, measuredDays]
    simp only [Function.comp_def, takenOn_retold]
  have hmany : (n : ℚ) ≤ accumulated settings retold .vcpu := by
    have hentry : (n : ℚ) ∈ retold.map fun s => billable settings s .vcpu := by
      refine List.mem_map.2 ⟨_, List.mem_map_of_mem hrow, ?_⟩
      rw [UsageSnapshot.retold, if_neg hforeign]
      rfl
    refine List.single_le_sum (List.forall_mem_map.2 fun s _ => ?_) _ hentry
    exact Nat.cast_nonneg s.vcpus
  have hmean : 2 * |q.val| + 1 ≤ accumulated settings retold .vcpu / measuredDays retold := by
    have hpos : (0 : ℚ) < measuredDays rows := by exact_mod_cast hdays
    rw [hsame, le_div_iff₀ hpos]
    calc (2 * |q.val| + 1) * measuredDays rows
        ≤ (⌈2 * |q.val|⌉₊ + 1) * measuredDays rows := by
          gcongr
          exact Nat.le_ceil _
      _ = n := by
          rw [hn]
          push_cast
          ring
      _ ≤ accumulated settings retold .vcpu := hmany
  rw [quantityOf_costOf] at heq
  exact (lt_rnd_quantize hmean).ne (congrArg Double.val heq).symm

theorem exists_draft_retold_ne {own : UsageSnapshot → Prop} [DecidablePred own] (c : Casing)
    (s : Settings) {db : Db} (account : String) {row : UsageSnapshot}
    (hrow : row ∈ draftRows db.usageSnapshots domainId m) (hforeign : ¬ own row)
    (document : Document) :
    ∃ n, draft c s (db.retold own (fun _ => true) fun _ => manyVcpus n) account domainId m ≠
      document := by
  obtain ⟨n, hn⟩ := exists_quantityOf_ne hrow hforeign db.accountSettings
    (rateMap db.tariffRates (resolveTariff c db.tariffs account)) (document.quantityOf .vcpu)
  refine ⟨n, fun heq => hn ?_⟩
  rw [← heq, quantityOf_draft, draftCost]
  show _ = (costOf db.accountSettings (draftRows (db.usageSnapshots.retold own (fun _ => true)
    fun _ => manyVcpus n) domainId m) _).quantityOf .vcpu
  have hall : (draftRows db.usageSnapshots domainId m).filter (fun row => own row ∨ true = true) =
      draftRows db.usageSnapshots domainId m := List.filter_eq_self.2 fun row _ => by simp
  rw [draftRows_retold, hall]
  rfl

end

/-! ### What the two requests answer -/

section

variable {c : Casing} {s : Settings} {name : String} {m : Month} {db : Db} {months : ℕ}
  {today : Date} {now : Instant} {email account domainId : String}

theorem invoice_of_accountBillingGet {page : AccountPage}
    (h : resolveAccount c db.usageSnapshots name = .ok (account, domainId))
    (hpage : accountBillingGet c s name m db months = .ok page) :
    (∃ inv, findInvoice c db.book.invoices account m.label = some inv ∧
      page.invoice = serialize s inv (db.book.linesOf inv.number)) ∨
    (findInvoice c db.book.invoices account m.label = none ∧
      page.invoice = draft c s db account domainId m) := by
  unfold accountBillingGet at hpage
  rw [h] at hpage
  obtain rfl := Except.ok.inj hpage
  cases hfind : findInvoice c db.book.invoices account m.label with
  | some inv => exact .inl ⟨inv, rfl, by simp only⟩
  | none => exact .inr ⟨rfl, by simp only⟩

/-- An answer with the number of an invoice that was there is that of the invoice found. -/
theorem findInvoice_of_accountInvoicePost {reply : InvoiceReply} {inv : Invoice}
    (h : resolveAccount c db.usageSnapshots name = .ok (account, domainId))
    (hreply : (accountInvoicePost c s name m db today now email).1 = .ok reply)
    (hinv : inv ∈ db.book.invoices) (hnumber : reply.data.number = some inv.number) :
    findInvoice c db.book.invoices account m.label = some inv := by
  have hpost : accountInvoicePost c s name m db today now email =
      (.ok reply, (accountInvoicePost c s name m db today now email).2) := by rw [← hreply]
  rcases accountInvoicePost_cases hpost with ⟨err, herr, -⟩ | ⟨account', domainId', issued, book,
    hscope, -, hissue, hanswer, -⟩
  · cases herr
  · obtain ⟨rfl, rfl⟩ := Prod.mk.inj (Except.ok.inj (h.symm.trans hscope))
    obtain rfl := Except.ok.inj hanswer
    rcases issue_cases hissue with
      ⟨found, hfind, rfl, -⟩ | ⟨-, new, row, rows, -, hsaved, hclash, -, -, -, rfl⟩
    · rwa [db.book.eq_of_number (findInvoice_spec hfind).1 hinv (Option.some.inj hnumber)] at hfind
    · -- a new number is not one of the book
      have hrow : row.number = new.number := by rw [(Invoice.saved_spec hsaved).1]
      exact absurd (.inl ((Option.some.inj hnumber).symm.trans hrow.symm)) (hclash inv hinv)

/-- With the draft, the whole answer stays as it was. -/
theorem accountInvoicePost_retold {own : UsageSnapshot → Prop} [DecidablePred own]
    {keep : UsageSnapshot → Bool} {tell : UsageSnapshot → Measurements}
    (h : resolveAccount c db.usageSnapshots name = .ok (account, domainId))
    (h' : resolveAccount c (db.retold own keep tell).usageSnapshots name = .ok (account, domainId))
    (hdraft : draft c s (db.retold own keep tell) account domainId m =
      draft c s db account domainId m) :
    (accountInvoicePost c s name m (db.retold own keep tell) today now email).1 =
      (accountInvoicePost c s name m db today now email).1 := by
  have hissue : issue c s (db.retold own keep tell) now account domainId m email =
      issue c s db now account domainId m email := by
    unfold issue
    rw [hdraft]
    rfl
  unfold accountInvoicePost
  rw [h, h']
  dsimp only
  rw [hdraft, hissue]
  split_ifs
  · rfl
  · cases refusal (draft c s db account domainId m) with
    | some err => rfl
    | none =>
      cases issue c s db now account domainId m email with
      | error err => rfl
      | ok issued => rfl

theorem exists_page_retold {own : UsageSnapshot → Prop} [DecidablePred own]
    {keep : UsageSnapshot → Bool} {tell : UsageSnapshot → Measurements}
    (h : resolveAccount c (db.retold own keep tell).usageSnapshots name = .ok (account, domainId))
    (hfind : findInvoice c db.book.invoices account m.label = none) (months : ℕ) :
    ∃ page, accountBillingGet c s name m (db.retold own keep tell) months = .ok page ∧
      page.invoice = draft c s (db.retold own keep tell) account domainId m := by
  obtain ⟨page, hpage, -, -⟩ := exists_accountBillingGet h s m months
  refine ⟨page, hpage, ?_⟩
  rcases invoice_of_accountBillingGet h hpage with ⟨inv, hinv, -⟩ | ⟨-, hshown⟩
  · exact absurd (hfind.symm.trans hinv) (by simp)
  · exact hshown

theorem belongs_of_draftRows (h : domainId = "" → UnattributedAre c db.usageSnapshots m account) :
    ∀ row ∈ draftRows db.usageSnapshots domainId m, Belongs c account domainId row := by
  intro row hrow
  obtain ⟨hmem, hdomain, hcovers⟩ := mem_draftRows.1 hrow
  by_cases hd : domainId = ""
  · exact .inr ⟨hd, h hd row hmem (hdomain.trans hd) hcovers⟩
  · exact .inl ⟨hd, hdomain⟩

/-! ### When the bill is drawn from the account's rows -/

theorem ownInvoice_of_bill {inv : Invoice}
    (h : resolveAccount c db.usageSnapshots name = .ok (account, domainId))
    (hbill : BillFromOwnRows c s name m db months today now email account domainId)
    (hinv : findInvoice c db.book.invoices account m.label = some inv) :
    OwnInvoice c db account domainId m inv := by
  obtain ⟨page, hpage, -, -⟩ := exists_accountBillingGet h s m months
  rcases invoice_of_accountBillingGet h hpage with ⟨found, hfind, hshown⟩ | ⟨hnone, -⟩
  · obtain rfl : found = inv := Option.some.inj (hfind.symm.trans hinv)
    refine (hbill.shown page hpage).1 _ (findInvoice_spec hinv).1 ?_
    rw [hshown]
    rfl
  · rw [hnone] at hinv
    cases hinv

/-- Without a domain, a row of others would show in the draft. -/
theorem unattributedAre_of_bill
    (h : resolveAccount c db.usageSnapshots name = .ok (account, domainId))
    (hbill : BillFromOwnRows c s name m db months today now email account domainId)
    (hd : domainId = "") : UnattributedAre c db.usageSnapshots m account := by
  obtain ⟨page, hpage, -, -⟩ := exists_accountBillingGet h s m months
  rcases invoice_of_accountBillingGet h hpage with ⟨inv, hfind, -⟩ | ⟨hnone, hshown⟩
  · exact (ownInvoice_of_bill h hbill hfind).2 hd
  · intro row hrow hrd hcovers
    by_contra hforeign
    have hnot : ¬ Belongs c account domainId row := by
      rintro (⟨hne, -⟩ | ⟨-, heq⟩)
      · exact hne hd
      · exact hforeign heq
    obtain ⟨n, hn⟩ := exists_draft_retold_ne c s account
      (mem_draftRows.2 ⟨hrow, hrd.trans hd.symm, hcovers⟩) hnot (draft c s db account domainId m)
    obtain ⟨page', hpage', hsame⟩ := (hbill.shown page hpage).2 (by rw [hshown]; rfl)
      (fun _ => true) fun _ => manyVcpus n
    obtain ⟨page'', hpage'', hshown'⟩ := exists_page_retold (resolveAccount_retold h) hnone months
    obtain rfl := Except.ok.inj (hpage'.symm.trans hpage'')
    exact hn (hshown'.symm.trans (hsame.trans hshown))

/-- A bill of own rows, if the unattributed ones are own and so is the invoice of the month. -/
theorem billFromOwnRows_of_own
    (h : resolveAccount c db.usageSnapshots name = .ok (account, domainId))
    (hunattributed : domainId = "" → UnattributedAre c db.usageSnapshots m account)
    (hinvoice : ∀ inv, findInvoice c db.book.invoices account m.label = some inv →
      inv.domainId = domainId ∧
        (NeverMeasured c db.usageSnapshots name → db.book.linesOf inv.number = [])) :
    BillFromOwnRows c s name m db months today now email account domainId := by
  have hown : ∀ inv, findInvoice c db.book.invoices account m.label = some inv →
      OwnInvoice c db account domainId m inv :=
        fun inv hinv => ⟨(hinvoice inv hinv).1, hunattributed⟩
  have hdraft : ∀ keep tell, draft c s (db.retold (Belongs c account domainId) keep tell) account
      domainId m = draft c s db account domainId m :=
    fun _ _ => draft_retold s (draftRows_retold_of_own (belongs_of_draftRows hunattributed))
  -- a name that was never measured has no rows to be billed for
  have hnone : NeverMeasured c db.usageSnapshots name →
      draftRows db.usageSnapshots domainId m = [] := by
    intro hnever
    rcases resolveAccount_cases h with ⟨latest, hmem, -, hlatest, -, -⟩ | ⟨-, -, rfl, -⟩
    · exact absurd hlatest (hnever latest hmem)
    · refine List.eq_nil_iff_forall_not_mem.2 fun row hrow => ?_
      obtain ⟨hmem, hrd, hcovers⟩ := mem_draftRows.1 hrow
      exact hnever row hmem (Casing.iexact_trans (hunattributed rfl row hmem hrd hcovers)
        (iexact_of_resolveAccount h))
  constructor
  case shown =>
    intro page hpage
    rcases invoice_of_accountBillingGet h hpage with ⟨inv, hfind, hshown⟩ | ⟨hfind, hshown⟩
    · rw [hshown]
      refine ⟨fun inv' hinv' hnumber => ?_, fun hnumber => by cases hnumber⟩
      have hsame := db.book.eq_of_number (findInvoice_spec hfind).1 hinv' (Option.some.inj hnumber)
      exact hsame ▸ hown inv hfind
    · rw [hshown]
      refine ⟨fun inv _ hnumber => (by cases hnumber), fun _ keep tell => ?_⟩
      rw [← hdraft keep tell]
      exact exists_page_retold (resolveAccount_retold h) hfind months
  case posted =>
    exact fun reply hreply inv hinv hnumber =>
      hown inv (findInvoice_of_accountInvoicePost h hreply hinv hnumber)
  case drawn =>
    exact fun keep tell => accountInvoicePost_retold h (resolveAccount_retold h) (hdraft keep tell)
  case empty =>
    intro hnever page hpage
    rcases invoice_of_accountBillingGet h hpage with ⟨inv, hfind, hshown⟩ | ⟨-, hshown⟩
    · rw [hshown]
      exact List.map_eq_nil_iff.2 ((hinvoice inv hfind).2 hnever)
    · rw [hshown]
      exact (draft_of_no_rows c s account (hnone hnever)).1
  case refused =>
    intro hnever
    have hdays := (draft_of_no_rows c s account (hnone hnever)).2
    obtain ⟨err, herr, hcode⟩ := refusal_of_no_days hdays
    simp only [accountInvoicePost, h, herr]
    split_ifs with hstart
    · exact ⟨_, rfl, fun hnot => absurd hstart hnot⟩
    · exact ⟨err, rfl, fun _ => hcode⟩

end

/-- **A bill is drawn from the account's own rows** exactly when the newest measurement of the name
has a domain id, or every unattributed row of the month carries the name, and the invoice of the
month, if there is one, is of this domain and has no lines for a name that was never measured. -/
theorem bill_from_own_rows_iff (c : Casing) (s : Settings) (name : String) (m : Month) (db : Db)
    (months : ℕ) (today : Date) (now : Instant) (email account domainId : String)
    (h : resolveAccount c db.usageSnapshots name = .ok (account, domainId)) :
    BillFromOwnRows c s name m db months today now email account domainId ↔
      ((∃ latest, newestMeasurement c db.usageSnapshots (strip name) = some latest ∧
          latest.domainId ≠ "") ∨ UnattributedAre c db.usageSnapshots m (strip name)) ∧
      ∀ inv, findInvoice c db.book.invoices account m.label = some inv → inv.domainId = domainId ∧
        (NeverMeasured c db.usageSnapshots name → db.book.linesOf inv.number = []) := by
  have haccount := iexact_of_resolveAccount h
  have hname : UnattributedAre c db.usageSnapshots m account ↔
      UnattributedAre c db.usageSnapshots m (strip name) :=
    ⟨fun hall row hrow hd hcovers => Casing.iexact_trans (hall row hrow hd hcovers) haccount,
      fun hall row hrow hd hcovers =>
        Casing.iexact_trans (hall row hrow hd hcovers) (Casing.iexact_comm.1 haccount)⟩
  constructor
  · intro hbill
    refine ⟨?_, fun inv hinv => ⟨(ownInvoice_of_bill h hbill hinv).1, fun hnever => ?_⟩⟩
    · rcases resolveAccount_cases h with ⟨latest, -, hlatest, -, -, hd⟩ | ⟨-, -, hd, -⟩
      · by_cases hblank : domainId = ""
        · exact .inr (hname.1 (unattributedAre_of_bill h hbill hblank))
        · exact .inl ⟨latest, hlatest, hd ▸ hblank⟩
      · exact .inr (hname.1 (unattributedAre_of_bill h hbill hd))
    · obtain ⟨page, hpage, -, -⟩ := exists_accountBillingGet h s m months
      have hlines := hbill.empty hnever page hpage
      rcases invoice_of_accountBillingGet h hpage with ⟨found, hfind, hshown⟩ | ⟨hnone, -⟩
      · obtain rfl : found = inv := Option.some.inj (hfind.symm.trans hinv)
        -- the page shows the invoice on record, with its lines
        rw [hshown] at hlines
        exact List.map_eq_nil_iff.1 hlines
      · rw [hnone] at hinv
        cases hinv
  · rintro ⟨hcond, hinvoice⟩
    refine billFromOwnRows_of_own h (fun hd => hname.2 (hcond.resolve_left ?_)) hinvoice
    rintro ⟨latest, hlatest, hne⟩
    rcases resolveAccount_cases h with ⟨latest', -, hlatest', -, -, hd'⟩ | ⟨hnone, -, -, -⟩
    · obtain rfl : latest = latest' := Option.some.inj (hlatest.symm.trans hlatest')
      exact hne (hd' ▸ hd)
    · rw [hnone] at hlatest
      cases hlatest

/-! ### A bill for rows of nobody -/

/-- A project without an owner was measured; "Ghost", which never was, is issued an invoice for
it. -/
theorem foreign_rows_invoiced :
    let db := pricedDb "Ghost" (measuredRow "" "" "p1")
    let answer := (accountInvoicePost .ascii plainSettings "Ghost" august db august.first 0 "op").1
    resolveAccount .ascii db.usageSnapshots "Ghost" = .ok ("Ghost", "") ∧
      NeverMeasured .ascii db.usageSnapshots "Ghost" ∧
      (answer.toOption.bind fun reply => reply.data.number) = some "СФ-2026-0001" ∧
      (answer.toOption.map fun reply => reply.data.lines.map DocumentLine.resource) = some [.vcpu] ∧
      ¬ BillFromOwnRows .ascii plainSettings "Ghost" august db 6 august.first 0 "op"
        "Ghost" "" := by
  intro db answer
  have hnever : NeverMeasured .ascii db.usageSnapshots "Ghost" := by
    simp only [NeverMeasured]
    decide +kernel
  have hnumber : (answer.toOption.bind fun reply => reply.data.number) = some "СФ-2026-0001" := by
    decide +kernel
  refine ⟨by decide +kernel, hnever, hnumber, by decide +kernel, fun h => ?_⟩
  obtain ⟨err, herr, -⟩ := h.refused hnever
  rw [show answer = .error (.app err) from herr] at hnumber
  cases hnumber

/-- An account with a domain gets the bill for its own row, beside one without an owner. -/
theorem bill_from_own_rows_iff_of_measured :
    let db := { pricedDb "Acme" (measuredRow "Acme" "d1" "p1") with
      usageSnapshots := ⟨[measuredRow "" "" "p2", measuredRow "Acme" "d1" "p1"], by decide⟩ }
    BillFromOwnRows .ascii plainSettings "acme" august db 6 august.first 0 "op" "Acme" "d1" := by
  intro db
  refine (bill_from_own_rows_iff .ascii plainSettings "acme" august db 6 august.first 0 "op" "Acme"
    "d1" (by decide +kernel)).2 ⟨.inl ⟨measuredRow "Acme" "d1" "p1", by decide +kernel, by decide⟩,
      fun inv hinv => ?_⟩
  cases (findInvoice_spec hinv).1

end OpenCloud
