import OpenCloud.Billing.Usage

/-!
# The history and the months

The history groups every row by the label of its month, sorts the labels and takes the last ones;
the page of a month takes the rows between its first and its last day.  These are the same rows, and
the order of the labels is that of the calendar.

## Main results

* `history_eq` : the history lists the measured months in the order of the calendar, the last of
  them.
* `history_agrees` : each entry is what the page of its month shows, in the cabinet and in the
  operators' panel.
-/

namespace OpenCloud

/-- The months with rows, in the order of the calendar. -/
def measuredMonths (rows : List UsageSnapshot) : List Month :=
  (rows.map fun row => row.takenOn.monthOf).dedup.insertionSort fun m n => m ≤ n

/-- The last `n` of them. -/
def recentMonths (rows : List UsageSnapshot) (n : ℕ) : List Month :=
  (measuredMonths rows).drop ((measuredMonths rows).length - n)

/-- These are the `n` most recent months that have rows, or all of them, in the order of the
calendar. -/
structure MostRecent (rows : List UsageSnapshot) (n : ℕ) (months : List Month) : Prop where
  increasing : months.Pairwise fun m m' => m < m'
  measured : ∀ m ∈ months, ∃ row ∈ rows, m.Covers row.takenOn
  recent : ∀ row ∈ rows, ∀ m, m.Covers row.takenOn → m ∉ months → ∀ m' ∈ months, m < m'
  count : months.length = min n (rows.map fun row => row.takenOn.monthOf).dedup.length

section

variable {settings : List AccountSettings} {rows : List UsageSnapshot} {rates : RateMap} {n : ℕ}
  {m : Month}

theorem mem_measuredMonths : m ∈ measuredMonths rows ↔ ∃ row ∈ rows, m.Covers row.takenOn := by
  rw [measuredMonths, List.mem_insertionSort, List.mem_dedup, List.mem_map]
  exact exists_congr fun row => and_congr_right fun _ => Month.covers_iff.symm

theorem length_measuredMonths :
    (measuredMonths rows).length = (rows.map fun row => row.takenOn.monthOf).dedup.length :=
  List.length_insertionSort _ _

theorem nodup_measuredMonths : (measuredMonths rows).Nodup :=
  (List.perm_insertionSort _ _).nodup_iff.2 (List.nodup_dedup _)

theorem measuredMonths_pairwise : (measuredMonths rows).Pairwise fun m m' => m < m' := by
  have hle : (measuredMonths rows).Pairwise fun m m' => m ≤ m' := List.pairwise_insertionSort _ _
  exact (hle.and nodup_measuredMonths).imp fun h => Month.lt_of_le_of_ne h.1 h.2

theorem measuredMonths_perm {rows' : List UsageSnapshot} (h : rows.Perm rows') :
    measuredMonths rows = measuredMonths rows' := by
  have hperm : (measuredMonths rows).Perm (measuredMonths rows') :=
    (List.perm_insertionSort _ _).trans ((h.map _).dedup.trans (List.perm_insertionSort _ _).symm)
  refine hperm.eq_of_pairwise ?_ measuredMonths_pairwise measuredMonths_pairwise
  intro m m' _ _ hlt hlt'
  exact absurd hlt' (Nat.lt_asymm hlt)

/-- The months taken from the end are the most recent ones. -/
theorem mostRecent_recentMonths : MostRecent rows n (recentMonths rows n) := by
  have hparts := List.take_append_drop ((measuredMonths rows).length - n) (measuredMonths rows)
  have hsorted := @measuredMonths_pairwise rows
  rw [← hparts] at hsorted
  -- what is dropped comes before what is kept
  obtain ⟨-, hincreasing, hbefore⟩ := List.pairwise_append.1 hsorted
  constructor
  case increasing => exact hincreasing
  case measured => exact fun m hm => mem_measuredMonths.1 (List.mem_of_mem_drop hm)
  case recent =>
    intro row hrow m hcovers hnot m' hm'
    have hm : m ∈ measuredMonths rows := mem_measuredMonths.2 ⟨row, hrow, hcovers⟩
    rw [← hparts] at hm
    exact hbefore m ((List.mem_append.1 hm).resolve_right hnot) m' hm'
  case count =>
    rw [recentMonths, List.length_drop, ← length_measuredMonths]
    omega

instance : Std.Total fun a b : String × List UsageSnapshot => a.1 ≤ b.1 :=
  ⟨fun a b => String.le_total a.1 b.1⟩

instance : IsTrans (String × List UsageSnapshot) fun a b => a.1 ≤ b.1 :=
  ⟨fun _ _ _ => String.le_trans⟩

/-- The groups in the order of their labels are the months in the order of the calendar, each with
its rows. -/
theorem sorted_buckets : (Dict.collect (fun row : UsageSnapshot => some row.takenOn.monthLabel) []
    (fun row group => group ++ [row]) [] rows).insertionSort (fun a b => a.1 ≤ b.1) =
      (measuredMonths rows).map fun m =>
        (m.label, rows.filter fun row => m.Covers row.takenOn) := by
  have hnodup : (Dict.collect (fun row : UsageSnapshot => some row.takenOn.monthLabel) []
      (fun row group => group ++ [row]) [] rows).keys.Nodup :=
        Dict.nodup_keys_collect (d := []) List.nodup_nil rows
  have hlabels : ((measuredMonths rows).map Month.label).Pairwise (· ≤ ·) :=
    List.pairwise_map.2 ((List.pairwise_insertionSort _ _).imp Month.label_le_label.2)
  have hdistinct : ((measuredMonths rows).map Month.label).Nodup :=
    nodup_measuredMonths.map fun _ _ => Month.label_inj
  rw [Dict.insertionSort_items (fun a b : String => a ≤ b)
    (fun _ _ => String.le_antisymm) hlabels hdistinct hnodup]
  · rw [List.filterMap_map, ← List.filterMap_eq_map]
    refine List.filterMap_congr fun m hm => ?_
    obtain ⟨row, hrow, hcovers⟩ := mem_measuredMonths.1 hm
    have hgroup : (m.label, rows.filter fun row => m.Covers row.takenOn) ∈
        Dict.collect (fun row : UsageSnapshot => some row.takenOn.monthLabel) []
          (fun row group => group ++ [row]) [] rows := by
      refine Dict.mem_group_iff.2 ⟨⟨row, hrow, Month.monthLabel_eq_label_iff.2 hcovers⟩, ?_⟩
      exact List.filter_congr fun row _ => decide_eq_decide.2 Month.monthLabel_eq_label_iff.symm
    rw [Dict.mem_iff_get? hnodup] at hgroup
    rw [Function.comp_apply, hgroup]
    rfl
  · -- every label is that of a measured month
    intro label hlabel
    obtain ⟨e, he, rfl⟩ := List.mem_map.1 hlabel
    obtain ⟨⟨row, hrow, hkey⟩, -⟩ := Dict.mem_group_iff.1 he
    refine List.mem_map.2 ⟨row.takenOn.monthOf,
      mem_measuredMonths.2 ⟨row, hrow, Month.covers_iff.2 rfl⟩, ?_⟩
    exact hkey

/-- The history lists the most recent months, each with the bill of its rows. -/
theorem history_eq : history settings rows rates n = (recentMonths rows n).map fun m =>
    ⟨m.label, (costOf settings (rows.filter fun row => m.Covers row.takenOn) rates).total,
      measuredDays (rows.filter fun row => m.Covers row.takenOn)⟩ := by
  have hperm : (rows.insertionSort fun a b => a.takenOn ≤ b.takenOn).Perm rows :=
    List.perm_insertionSort _ _
  unfold history
  dsimp only
  rw [sorted_buckets, List.length_map, ← List.map_drop, List.map_map, measuredMonths_perm hperm]
  refine List.map_congr_left fun m _ => ?_
  have hrows := hperm.filter fun row => decide (m.Covers row.takenOn)
  have hcost := @costOf_perm settings _ _ rates hrows
  exact congrArg (fun cost : Cost CostLine => HistoryEntry.mk m.label cost.total cost.days) hcost

theorem historyMonths_eq_ok {table : DigitTable} {param : Option String}
    (h : historyMonths table param = .ok n) :
    ∃ asked, requestedMonths table param = some asked ∧ n = (min (max asked 1) 24).toNat := by
  unfold historyMonths at h
  cases hasked : requestedMonths table param with
  | none => simp [hasked] at h
  | some asked =>
    rw [hasked] at h
    exact ⟨asked, rfl, (Except.ok.inj h).symm⟩

end

section Pages

variable (c : Casing) (s : Settings) (cloud : Cloud) (user : CabinetUser) (db : Db) (name : String)

/-- Asked for the month, the cabinet's page shows this total and these days. -/
def CabinetShows (m : Month) (total : Double) (days : ℕ) : Prop :=
  ∃ page, adminBillingGet c cloud user db m = .ok page ∧ total = page.cost.total ∧
    days = page.daysMeasured

/-- Asked for the month, the operators' page shows them. -/
def PanelShows (months : ℕ) (m : Month) (total : Double) (days : ℕ) : Prop :=
  ∃ page, accountBillingGet c s name m db months = .ok page ∧ total = page.cost.total ∧
    days = page.daysMeasured

/-- The entries are those of the most recent months that have rows, as many as were asked for.  The
period of an entry, sent back, asks for its month, of which the page shows the total and the days of
the entry. -/
def EntriesAgree (table : DigitTable) (today : Date) (rows : List UsageSnapshot) (asked : ℤ)
    (shows : Month → Double → ℕ → Prop) (entries : List HistoryEntry) : Prop :=
  ∃ months, MostRecent rows (min (max asked 1) 24).toNat months ∧
    List.Forall₂ (fun m entry => entry.period = m.label ∧
      readPeriod table today (some entry.period) = .ok m ∧
      shows m entry.total entry.days) months entries

variable {c s cloud user db name} {table : DigitTable} {param : Option String} {today : Date}
  {n : ℕ}

theorem entriesAgree {settings : List AccountSettings} {rows : List UsageSnapshot} {rates : RateMap}
    {asked : ℤ} {shows : Month → Double → ℕ → Prop}
    (h : ∀ m, shows m (costOf settings (rows.filter fun row => m.Covers row.takenOn) rates).total
      (measuredDays (rows.filter fun row => m.Covers row.takenOn))) :
    EntriesAgree table today rows asked shows
      (history settings rows rates (min (max asked 1) 24).toNat) := by
  refine ⟨_, mostRecent_recentMonths, ?_⟩
  rw [history_eq]
  exact List.forall₂_map_right_iff.2 (List.forall₂_same.2 fun m _ =>
    ⟨rfl, readPeriod_label today m, h m⟩)

/-- **The history agrees with the page of each month**, in the cabinet and in the operators'
panel. -/
theorem history_agrees :
    (∀ reply, adminUsageHistoryGet c cloud user db table param = .ok reply →
      ∃ account domainId asked, accountDomain c cloud user = .ok (account, domainId) ∧
        requestedMonths table param = some asked ∧
        EntriesAgree table today (db.usageSnapshots.rows.filter fun row => row.domainId = domainId)
          asked (CabinetShows c cloud user db) reply.data) ∧
    ∀ n m page, historyMonths table param = .ok n → accountBillingGet c s name m db n = .ok page →
      ∃ asked, requestedMonths table param = some asked ∧
        EntriesAgree table today (scopeRows c db page.account page.domainId) asked
          (PanelShows c s db name n) page.history := by
  constructor
  · intro reply hreply
    obtain ⟨account, domainId, n, hscope, hn, -, hdata⟩ := adminUsageHistoryGet_eq_ok hreply
    obtain ⟨asked, hasked, rfl⟩ := historyMonths_eq_ok hn
    refine ⟨account, domainId, asked, hscope, hasked, ?_⟩
    rw [hdata]
    refine entriesAgree fun m => ?_
    have hrows : ((db.usageSnapshots.rows.filter fun row => row.domainId = domainId).filter
        fun row => m.Covers row.takenOn).Perm
          ((domainRows db domainId m).insertionSort UsageSnapshot.le) := by
      rw [Table.filter_and]
      exact (List.perm_insertionSort _ _).symm
    exact ⟨_, adminBillingGet_of_accountDomain hscope m, congrArg Cost.total (costOf_perm hrows),
      (hrows.map _).dedup.length_eq⟩
  · intro n m page hn hpage
    obtain ⟨asked, hasked, rfl⟩ := historyMonths_eq_ok hn
    obtain ⟨hresolve, -, -, hhistory, -⟩ := accountBillingGet_eq_ok hpage
    refine ⟨asked, hasked, ?_⟩
    rw [hhistory]
    refine entriesAgree fun m' => ?_
    -- the page of another month is of the same account
    obtain ⟨page', hpage', haccount, hdomain⟩ :=
      exists_accountBillingGet hresolve s m' (min (max asked 1) 24).toNat
    obtain ⟨-, hcost, -, -, hdays⟩ := accountBillingGet_eq_ok hpage'
    have hrows :
      ((scopeRows c db page.account page.domainId).filter fun row => m'.Covers row.takenOn).Perm
        (pageRows c db page.account page.domainId m') := (List.perm_insertionSort _ _).symm
    rw [haccount, hdomain] at hcost hdays
    refine ⟨page', hpage', ?_, ?_⟩
    · rw [hcost]
      exact congrArg Cost.total (costOf_perm hrows)
    · rw [hdays]
      exact (hrows.map _).dedup.length_eq

end Pages

/-- An account that was measured in two months. -/
def twoMonthsDb : Db :=
  { pricedDb "Acme" (measuredRow "Acme" "d1" "p1") with
    usageSnapshots := ⟨[measuredRow "Acme" "d1" "p1",
      { measuredRow "Acme" "d1" "p1" with
        vcpus := 2, takenOn := ⟨2026, 7, 31, august.year_ok, by decide, by decide⟩ }],
      by decide⟩ }

/-- Both of its histories, as many months as the default. -/
theorem history_agrees_twoMonths :
    (∃ reply, adminUsageHistoryGet .ascii emptyAccount accountAdmin twoMonthsDb .plain none =
      .ok reply ∧
      reply.data.map HistoryEntry.period = ["2026-07", "2026-08"] ∧
      ∃ account domainId asked, accountDomain .ascii emptyAccount accountAdmin =
        .ok (account, domainId) ∧
        requestedMonths .plain none = some asked ∧
        EntriesAgree .plain august.last (twoMonthsDb.usageSnapshots.rows.filter fun row =>
          row.domainId = domainId)
          asked (CabinetShows .ascii emptyAccount accountAdmin twoMonthsDb) reply.data) ∧
    ∃ page, accountBillingGet .ascii plainSettings "acme" august twoMonthsDb 6 = .ok page ∧
      ∃ asked, requestedMonths .plain none = some asked ∧
        EntriesAgree .plain august.last (scopeRows .ascii twoMonthsDb page.account page.domainId)
          asked (PanelShows .ascii plainSettings twoMonthsDb "acme" 6) page.history := by
  have hscope : accountDomain .ascii emptyAccount accountAdmin = .ok ("Acme", "d1") := by
    decide +kernel
  obtain ⟨hcabinet, hpanel⟩ :=
    @history_agrees .ascii plainSettings emptyAccount accountAdmin twoMonthsDb "acme"
    .plain none august.last
  obtain ⟨page, hpage, -, -⟩ :=
    @exists_accountBillingGet .ascii twoMonthsDb "Acme" "d1" "acme" (by decide +kernel)
    plainSettings august 6
  have hreply :
    ∃ reply, adminUsageHistoryGet .ascii emptyAccount accountAdmin twoMonthsDb .plain none =
      .ok reply ∧
      reply.data.map HistoryEntry.period = ["2026-07", "2026-08"] := by
    unfold adminUsageHistoryGet
    rw [hscope]
    exact ⟨_, rfl, by decide +kernel⟩
  obtain ⟨reply, hreply, hperiods⟩ := hreply
  exact ⟨⟨reply, hreply, hperiods, hcabinet reply hreply⟩, page, hpage,
    hpanel 6 august page rfl hpage⟩

end OpenCloud
