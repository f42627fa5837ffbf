import OpenCloud.Billing.Estimate
import OpenCloud.Billing.Footprint
import OpenCloud.Platform.Overview
import OpenCloud.Platform.Scope

/-!
# The overview and an account's own page

The overview groups the month's measurements by domain and names a domain by the newest of them.
The page takes a name, finds the newest measurement under it in the whole table, and shows that
domain.  The two agree exactly when that measurement is of the row's domain, and one invoice at most
is found under the name (`page_agrees_iff`).

## Main results

* `keys_apart_of_captures` : no measurement without a domain falls into the group of one.
* `accountBillingGet_of_newest` : what the page shows, in terms of the newest measurement of its
  name.
* `agreesWith_iff` : a row and a page of one domain agree exactly if their names lead to one invoice
  and price.
-/

namespace OpenCloud

/-- No domain has for its id the heading of the measurements without a domain. -/
def Cloud.IdsApart (cloud : Cloud) : Prop :=
  ∀ domains, cloud.listDomains = .ok domains → ∀ d ∈ domains, d.id ≠ "name:"

section Captures

variable {c : Casing} {calls : List CaptureCall} {table table' : SnapshotTable}

theorem forall_of_captures {P : UsageSnapshot → Prop} (h : captures c calls table = .ok table')
    (htable : ∀ row ∈ table.rows, P row)
    (hrow : ∀ call ∈ calls, ∀ directory, projectDirectory call.cloud = .ok directory →
      ∀ p values, P (usageRow call.now call.takenOn directory p values)) :
        ∀ row ∈ table'.rows, P row := by
  induction calls generalizing table with
  | nil =>
    obtain rfl : table = table' := by simpa [captures, pure, Except.pure] using h
    exact htable
  | cons call calls ih =>
    obtain ⟨table₁, report, hcall, hrest⟩ := captures_cons_eq_ok h
    refine ih hrest ?_ fun cl hcl => hrow cl (by simp [hcl])
    intro row hmem
    obtain ⟨directory, hdir, -⟩ := capture_eq_ok hcall
    rcases (mem_capture hcall hdir).1 hmem with ⟨e, -, rfl⟩ | ⟨hold, -⟩
    · exact hrow call (by simp) directory hdir e.1 e.2
    · exact htable row hold

/-- No measurement without a domain falls into the group of one. -/
theorem keys_apart_of_captures (h : captures c calls .empty = .ok table)
    (hids : ∀ call ∈ calls, call.cloud.IdsApart) : ∀ a ∈ table.rows, ∀ b ∈ table.rows,
      a.domainId ≠ "" → b.domainId = "" → "name:" ++ b.account ≠ a.domainId := by
  have hall : ∀ row ∈ table.rows, (row.domainId = "" → row.account = "") ∧
    row.domainId ≠ "name:" := by
    refine forall_of_captures h (by simp [SnapshotTable.empty]) ?_
    intro call hcall directory hdir p values
    unfold usageRow
    cases hget : directory.get? p with
    | none => exact ⟨fun _ => rfl, by simp⟩
    | some owner =>
      obtain ⟨domains, hdomains, domain, hdomain, projects, -, howner⟩ :=
        (get?_projectDirectory hdir).1 owner hget
      obtain ⟨name, -, rfl⟩ := Option.map_eq_some_iff.1 howner
      exact ⟨fun hempty => absurd hempty (id_ne_empty_of_listDomains hdomains hdomain),
        hids call hcall domains hdomains domain hdomain⟩
  intro a ha b hb _ hdomain heq
  rw [(hall b hb).1 hdomain] at heq
  exact (hall a ha).2 heq.symm

end Captures

/-- The page shows as issued the invoice the row shows, and a draft where it shows none. -/
def ShowsInvoice : Option IssuedShown → Document → Prop
  | some shown, document => document.status = .issued ∧ document.number = some shown.number ∧
      document.total = shown.total ∧ document.issuedAt = some shown.issuedAt ∧
        document.issuedBy = some shown.issuedBy
  | none, document => document.status = .draft

/-- The page reports the row's domain, total, days and invoice. -/
structure AgreesWith (row : OverviewRow) (page : AccountPage) : Prop where
  domainId : page.domainId = row.domainId
  total : page.cost.total = row.total
  days : page.cost.days = row.daysMeasured ∧ page.daysMeasured = row.daysMeasured
  invoice : ShowsInvoice row.invoice page.invoice

section Pages

variable (c : Casing) (m : Month) (db : Db)

/-- The month of a domain at the prices of a name. -/
def chargedUnder (d name : String) : Cost CostLine :=
  costOf db.accountSettings (draftRows db.usageSnapshots d m)
    (rateMap db.tariffRates (tariffOf c db.tariffs name))

/-- Both names lead to one invoice and one price.  Where they are one name, ignoring case, that is
one invoice at most; the names differ only by blanks around the first, which the page strips. -/
def OneName (d name latest : String) : Prop :=
  if c.lower latest = c.lower name then (invoicesUnder c db.book.invoices m.label name).length ≤ 1
  else invoicesUnder c db.book.invoices m.label name = [] ∧
    invoicesUnder c db.book.invoices m.label latest = [] ∧
      (chargedUnder c m db d latest).total = (chargedUnder c m db d name).total

variable {c m db} {s : Settings} {name : String} {latest : UsageSnapshot} {months : ℕ}

theorem tariffOf_congr {tariffs : List Tariff} {a b : String} (h : c.lower a = c.lower b) :
    tariffOf c tariffs a = tariffOf c tariffs b := by
  unfold tariffOf
  rw [h]

/-- What the page shows, in terms of the newest measurement of its name. -/
theorem accountBillingGet_of_newest (s : Settings) (months : ℕ) (hname : strip name ≠ "")
    (hlatest : newestMeasurement c db.usageSnapshots (strip name) = some latest)
    (hdomain : latest.domainId ≠ "") :
    ∃ page, accountBillingGet c s name m db months = .ok page ∧ page.domainId = latest.domainId ∧
      page.cost = chargedUnder c m db latest.domainId latest.account ∧
      page.daysMeasured = (chargedUnder c m db latest.domainId latest.account).days ∧
      page.invoice = match findInvoice c db.book.invoices latest.account m.label with
        | some issued => serialize s issued (db.book.linesOf issued.number)
        | none => draft c s db latest.account latest.domainId m := by
  have hresolve : resolveAccount c db.usageSnapshots name =
    .ok (latest.account, latest.domainId) := by
    unfold resolveAccount
    dsimp only
    rw [if_neg hname, hlatest]
  have hrows :
    List.Perm (((db.usageSnapshots.rows.filter (inScope c latest.account latest.domainId)).filter
      fun row => m.Covers row.takenOn).insertionSort UsageSnapshot.le)
        (draftRows db.usageSnapshots latest.domainId m) := by
    have hscope : inScope c latest.account latest.domainId =
        fun row : UsageSnapshot => decide (row.domainId = latest.domainId) := by
      funext row
      rw [inScope, if_pos hdomain]
    rw [hscope, Table.filter_and]
    exact List.perm_insertionSort _ _
  unfold accountBillingGet
  rw [hresolve]
  refine ⟨_, rfl, rfl, ?_, ?_, rfl⟩
  · exact costOf_perm hrows
  · exact ((hrows.map _).dedup).length_eq

theorem overviewRow_domainSnapshots (s : Settings) (d : String) (last : UsageSnapshot) :
    (overviewRow c s m db (domainSnapshots m db d) last).total =
      (chargedUnder c m db d last.account).total ∧
    (overviewRow c s m db (domainSnapshots m db d) last).daysMeasured =
      (chargedUnder c m db d last.account).days ∧
    (overviewRow c s m db (domainSnapshots m db d) last).invoice =
      (invoicesUnder c db.book.invoices m.label last.account).getLast?.map fun inv =>
        ⟨inv.number, .ofRat inv.total, inv.issuedAt, inv.issuedBy⟩ := by
  have hcost : costOf db.accountSettings (domainSnapshots m db d)
      (rateMap db.tariffRates (tariffOf c db.tariffs last.account)) =
        chargedUnder c m db d last.account :=
    costOf_perm (domainSnapshots_perm m db d)
  refine ⟨congrArg Cost.total hcost, congrArg Cost.days hcost, ?_⟩
  rw [← get?_issuedInvoices]
  rfl

theorem accountBillingGet_cases {page : AccountPage}
    (h : accountBillingGet c s name m db months = .ok page) (hdomain : page.domainId ≠ "") :
    strip name ≠ "" ∧ ∃ latest,
      newestMeasurement c db.usageSnapshots (strip name) = some latest ∧
        latest.domainId = page.domainId := by
  unfold accountBillingGet at h
  obtain ⟨⟨account, domainId⟩, hresolve, hpage⟩ := exists_of_bind_eq_ok h
  have hname : strip name ≠ "" := by
    intro hempty
    unfold resolveAccount at hresolve
    rw [hempty] at hresolve
    cases hresolve
  obtain rfl := Except.ok.inj hpage
  rcases resolveAccount_cases hresolve with ⟨latest, -, hlatest, -, -, rfl⟩ | ⟨-, -, rfl, -⟩
  · exact ⟨hname, latest, hlatest, rfl⟩
  · exact absurd rfl hdomain

/-- The page shows the row's invoice exactly if both find the same one, or none. -/
theorem showsInvoice_iff {shown found : Option Invoice} {account domainId : String} :
    (∀ inv ∈ shown, inv ∈ db.book.invoices) → (∀ inv ∈ found, inv ∈ db.book.invoices) →
      (ShowsInvoice (shown.map fun inv =>
        ⟨inv.number, .ofRat inv.total, inv.issuedAt, inv.issuedBy⟩)
        (match found with
          | some issued => serialize s issued (db.book.linesOf issued.number)
          | none => draft c s db account domainId m) ↔ shown = found) := by
  intro hshown hfound
  cases shown with
  | none =>
    cases found with
    | none => exact iff_of_true rfl rfl
    | some found => exact iff_of_false (by rintro ⟨⟩) (by rintro ⟨⟩)
  | some shown =>
    cases found with
    | none => exact iff_of_false (by rintro ⟨⟨⟩, -⟩) (by rintro ⟨⟩)
    | some found =>
      constructor
      · rintro ⟨-, hnumber, -⟩
        exact congrArg some
          (db.book.eq_of_number (hshown _ rfl) (hfound _ rfl) (Option.some.inj hnumber).symm)
      · intro h
        obtain rfl := Option.some.inj h
        exact ⟨rfl, rfl, rfl, rfl, rfl⟩

theorem nodup_invoicesUnder {period : String} :
    (invoicesUnder c db.book.invoices period name).Nodup := by
  have hclash : db.book.invoices.Nodup := by
    refine db.book.unique.imp ?_
    rintro a b hab rfl
    exact hab (.inl rfl)
  exact (List.perm_insertionSort _ _).nodup_iff.2 (hclash.filter _)

/-- One invoice and one price for both names: the last invoice under the one is the first under the
other, and the domain is charged alike. -/
theorem oneName_iff {d latest : String} : OneName c m db d name latest ↔
    (chargedUnder c m db d latest).total = (chargedUnder c m db d name).total ∧
      (invoicesUnder c db.book.invoices m.label name).getLast? =
        (invoicesUnder c db.book.invoices m.label latest).head? := by
  unfold OneName
  split_ifs with hlower
  · have hcharged : chargedUnder c m db d latest = chargedUnder c m db d name := by
      unfold chargedUnder
      rw [tariffOf_congr hlower]
    have hunder : invoicesUnder c db.book.invoices m.label latest =
        invoicesUnder c db.book.invoices m.label name := by
      unfold invoicesUnder
      rw [hlower]
    rw [hcharged, hunder, ← Table.head?_eq_getLast?_iff nodup_invoicesUnder, eq_comm]
    simp
  · constructor
    · rintro ⟨hname, hlatest, htotal⟩
      exact ⟨htotal, by rw [hname, hlatest]; rfl⟩
    · rintro ⟨htotal, hsame⟩
      -- no invoice is under two names
      cases hlast : (invoicesUnder c db.book.invoices m.label name).getLast? with
      | none =>
        rw [hlast] at hsame
        exact ⟨List.getLast?_eq_none_iff.1 hlast, List.head?_eq_none_iff.1 hsame.symm, htotal⟩
      | some inv =>
        rw [hlast] at hsame
        have hname := (mem_invoicesUnder.1 (List.mem_of_getLast? hlast)).2.2
        have hlatest := (mem_invoicesUnder.1 (List.mem_of_mem_head? hsame.symm)).2.2
        exact absurd (hlatest.symm.trans hname) hlower

theorem findInvoice_of_newest
    (hcase : c.AgreeOn (db.usageSnapshots.rows.map UsageSnapshot.account ++
      db.book.invoices.map Invoice.account))
    (hlatest : newestMeasurement c db.usageSnapshots (strip name) = some latest) :
    findInvoice c db.book.invoices latest.account m.label =
      (invoicesUnder c db.book.invoices m.label latest.account).head? := by
  have hmem := (List.mem_filter.1 (Table.mem_of_firstBy hlatest)).1
  have hnames : ∀ a ∈ latest.account :: db.book.invoices.map Invoice.account,
      a ∈ db.usageSnapshots.rows.map UsageSnapshot.account ++
        db.book.invoices.map Invoice.account := by
    intro a ha
    rcases List.mem_cons.1 ha with rfl | ha
    · exact List.mem_append_left _ (List.mem_map_of_mem hmem)
    · exact List.mem_append_right _ ha
  exact findInvoice_eq fun a ha b hb => hcase a (hnames a ha) b (hnames b hb)

/-- A row of a domain agrees with the page of a newest measurement of the domain exactly if both
names lead to one invoice and one price. -/
theorem agreesWith_iff {last : UsageSnapshot} {d : String} {page : AccountPage}
    (hcase : c.AgreeOn (db.usageSnapshots.rows.map UsageSnapshot.account ++
      db.book.invoices.map Invoice.account))
    (hname : strip name ≠ "")
    (hlatest : newestMeasurement c db.usageSnapshots (strip name) = some latest)
    (hdomain : latest.domainId = d) (hd : d ≠ "")
    (hrow : (overviewRow c s m db (domainSnapshots m db d) last).domainId = d)
    (hpage : accountBillingGet c s name m db months = .ok page) :
    AgreesWith (overviewRow c s m db (domainSnapshots m db d) last) page ↔
      OneName c m db d last.account latest.account := by
  subst hdomain
  obtain ⟨htotal, hdays, hinvoice⟩ := @overviewRow_domainSnapshots c m db s latest.domainId last
  obtain ⟨page', hpage', hdomain, hcost, hmeasured, hshown⟩ :=
    accountBillingGet_of_newest (c := c) (m := m) s months hname hlatest hd
  obtain rfl : page = page' := Except.ok.inj (hpage.symm.trans hpage')
  have hshows :
    ShowsInvoice (overviewRow c s m db (domainSnapshots m db latest.domainId) last).invoice
      page.invoice ↔ (invoicesUnder c db.book.invoices m.label last.account).getLast? =
        (invoicesUnder c db.book.invoices m.label latest.account).head? := by
    rw [hinvoice, hshown, findInvoice_of_newest hcase hlatest]
    exact showsInvoice_iff
      (fun inv hinv => (mem_invoicesUnder.1 (List.mem_of_getLast? hinv)).1)
      (fun inv hinv => (mem_invoicesUnder.1 (List.mem_of_mem_head? hinv)).1)
  rw [oneName_iff]
  constructor
  · intro h
    exact ⟨by rw [← htotal, ← h.total, hcost], hshows.1 h.invoice⟩
  · rintro ⟨hcharged, hone⟩
    exact ⟨hdomain.trans hrow.symm, by rw [hcost, hcharged, htotal],
      ⟨by rw [hcost, hdays]; rfl, by rw [hmeasured, hdays]; rfl⟩, hshows.2 hone⟩

end Pages

/-- **One account, two views.**  For every table that captures leave, every month, every price list
and every book of invoices: the page of a row's name agrees with a row that has a domain id exactly
if the newest measurement under the name is the domain's and both names lead to one invoice and one
price. -/
theorem page_agrees_iff {c : Casing} {calls : List CaptureCall} {db : Db} {row : OverviewRow}
    (s : Settings) (m : Month) (months : ℕ)
    (htable : captures c calls .empty = .ok db.usageSnapshots)
    (hids : ∀ call ∈ calls, call.cloud.IdsApart)
    (hcase : c.AgreeOn (db.usageSnapshots.rows.map UsageSnapshot.account ++
      db.book.invoices.map Invoice.account))
    (hrow : row ∈ (billingOverviewGet c s m db).accounts) (hdomain : row.domainId ≠ "") :
    (∃ page, accountBillingGet c s row.account m db months = .ok page ∧ AgreesWith row page) ↔
      strip row.account ≠ "" ∧ ∃ latest,
        newestMeasurement c db.usageSnapshots (strip row.account) = some latest ∧
          latest.domainId = row.domainId ∧
            OneName c m db row.domainId row.account latest.account := by
  obtain ⟨last, -, hlast⟩ := mem_overview hrow hdomain (keys_apart_of_captures htable hids)
  generalize hd : row.domainId = d at hlast hdomain ⊢
  subst hlast
  constructor
  · rintro ⟨page, hpage, hagree⟩
    obtain ⟨hname, latest, hlatest, hpaged⟩ :=
      accountBillingGet_cases hpage ((hagree.domainId.trans hd) ▸ hdomain)
    have hsame := hpaged.trans (hagree.domainId.trans hd)
    exact ⟨hname, latest, hlatest, hsame,
      (agreesWith_iff hcase hname hlatest hsame hdomain hd hpage).1 hagree⟩
  · rintro ⟨hname, latest, hlatest, hsame, hone⟩
    obtain ⟨page, hpage, -⟩ := accountBillingGet_of_newest s months hname hlatest (hsame ▸ hdomain)
    exact ⟨page, hpage, (agreesWith_iff hcase hname hlatest hsame hdomain hd hpage).2 hone⟩

/-- A cloud with one running machine in each of two domains of these names. -/
def twoDomains (first second : String) : Cloud where
  serviceToken := .ok "token"
  vms := .ok [⟨some "p1", "active", 4, 0⟩, ⟨some "p2", "active", 2, 0⟩]
  volumes := .ok []
  elasticIps := .ok []
  volumeSnapshots := .ok []
  directory := .ok [⟨"d1", first⟩, ⟨"d2", second⟩]
  projects d := .ok (if d = "d1" then [("p1", "Main")] else [("p2", "Main")])

/-- The first of September. -/
def firstOfSeptember : Date := ⟨2026, 9, 1, august.year_ok, by decide, by decide⟩

/-- Two domains are measured; then the first is renamed and the second takes its name. -/
def takenOver : List CaptureCall :=
  [⟨twoDomains "Acme" "Umbrella", 0, august.first⟩,
    ⟨twoDomains "Initech" "Acme", 1, firstOfSeptember⟩]

/-- Tables with a price list for everyone and these measurements. -/
def pricedTable (table : SnapshotTable) : Db :=
  { Db.empty with
    tariffs := [⟨1, "Default price list", "UZS", "", true⟩]
    tariffRates := [⟨1, .vcpu, hundred⟩]
    usageSnapshots := table }

theorem idsApart_twoDomains (first second : String) : (twoDomains first second).IdsApart := by
  have hlist : (twoDomains first second).listDomains = .ok [⟨"d1", first⟩, ⟨"d2", second⟩] := by
    simp [Cloud.listDomains, DirectoryEntry.domain, twoDomains, Except.map]
  intro domains hdomains d hd
  obtain rfl := Except.ok.inj (hlist.symm.trans hdomains)
  rcases List.mem_cons.1 hd with rfl | hd
  · show "d1" ≠ "name:"
    decide
  · obtain rfl := List.mem_singleton.1 hd
    show "d2" ≠ "name:"
    decide

theorem page_agrees_iff_of_named : ∃ table, captures .ascii (takenOver.take 1) .empty = .ok table ∧
    ∃ row ∈ (billingOverviewGet .ascii plainSettings august (pricedTable table)).accounts,
      ((∃ page, accountBillingGet .ascii plainSettings row.account august (pricedTable table) 6 =
          .ok page ∧ AgreesWith row page) ↔
        strip row.account ≠ "" ∧ ∃ latest,
          newestMeasurement .ascii (pricedTable table).usageSnapshots (strip row.account) =
            some latest ∧
            latest.domainId = row.domainId ∧
              OneName .ascii august (pricedTable table) row.domainId row.account
                latest.account) := by
  have hcaptures : ((captures .ascii (takenOver.take 1) .empty).toOption.map fun table =>
      (table.rows.map UsageSnapshot.account,
        (billingOverviewGet .ascii plainSettings august (pricedTable table)).accounts.map
          OverviewRow.domainId)) = some (["Acme", "Umbrella"], ["d1", "d2"]) := by decide +kernel
  cases htable : captures .ascii (takenOver.take 1) .empty with
  | error e => simp [htable, Except.toOption] at hcaptures
  | ok table =>
    rw [htable] at hcaptures
    obtain ⟨haccounts, hrows⟩ := Prod.mk.inj (Option.some.inj hcaptures)
    have hmem :
      "d1" ∈ (billingOverviewGet .ascii plainSettings august (pricedTable table)).accounts.map
        OverviewRow.domainId := by
      rw [hrows]
      exact List.mem_cons_self
    obtain ⟨row, hrow, hdomain⟩ := List.mem_map.1 hmem
    refine ⟨table, rfl, row, hrow, page_agrees_iff plainSettings august 6 htable ?_ ?_ hrow ?_⟩
    · intro call hcall
      obtain rfl := List.mem_singleton.1 hcall
      exact idsApart_twoDomains _ _
    · show Casing.ascii.AgreeOn (table.rows.map UsageSnapshot.account ++ [])
      rw [haccounts]
      unfold Casing.AgreeOn
      decide +kernel
    · rw [hdomain]
      decide

/-- The page of the name shows the other domain. -/
theorem other_domain_shown : ∃ table, captures .ascii takenOver .empty = .ok table ∧
    ∃ row ∈ (billingOverviewGet .ascii plainSettings august (pricedTable table)).accounts,
      row.domainId ≠ "" ∧
        ¬ ∃ page, accountBillingGet .ascii plainSettings row.account august (pricedTable table) 6 =
          .ok page ∧ AgreesWith row page := by
  have hcaptures : ((captures .ascii takenOver .empty).toOption.map fun table =>
      ((billingOverviewGet .ascii plainSettings august (pricedTable table)).accounts.map
          fun row => (row.account, row.domainId),
        (accountBillingGet .ascii plainSettings "Acme" august (pricedTable table) 6).toOption.map
          AccountPage.domainId)) = some ([("Acme", "d1"), ("Umbrella", "d2")], some "d2") := by
    decide +kernel
  cases htable : captures .ascii takenOver .empty with
  | error e => simp [htable, Except.toOption] at hcaptures
  | ok table =>
    rw [htable] at hcaptures
    obtain ⟨hrows, hpage⟩ := Prod.mk.inj (Option.some.inj hcaptures)
    have hmem : ("Acme", "d1") ∈ (billingOverviewGet .ascii plainSettings august
        (pricedTable table)).accounts.map fun row => (row.account, row.domainId) := by
      rw [hrows]
      exact List.mem_cons_self
    obtain ⟨row, hrow, heq⟩ := List.mem_map.1 hmem
    obtain ⟨haccount, hdomain⟩ := Prod.mk.inj heq
    refine ⟨table, rfl, row, hrow, by rw [hdomain]; decide, ?_⟩
    rintro ⟨page, hok, hagree⟩
    rw [haccount] at hok
    rw [hok] at hpage
    have hd2 : page.domainId = "d2" := Option.some.inj hpage
    rw [hagree.domainId, hdomain] at hd2
    revert hd2
    decide

end OpenCloud
