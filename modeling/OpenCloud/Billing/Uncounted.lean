import OpenCloud.Billing.Averages
import OpenCloud.Billing.Footprint

/-!
# Backups off the bill

An account can be set not to count its scheduled backups.  Two tables of settings are compared, the
second with some more domains switched off: the rows are priced as if the backups of these domains
were not there, and nothing else on the bill moves.

## Main results

* `backupsWithin_of_measured` : the backup part of what a pass over the cluster measures is at most
  the whole.
* `costOf_withoutBackups` : the bill is that of the rows with the backups taken off where they are
  switched off.
* `switchedOff` : what switching backups off does to a bill.
-/

namespace OpenCloud

/-- The row carries what a pass over the cluster measured for some project. -/
def UsageSnapshot.Measured (s : UsageSnapshot) : Prop :=
  ∃ c lists p, (p, s.toMeasurements) ∈ measureCluster c lists

/-- A line with the same price and no larger figures. -/
structure CostLine.AtMost (line line₀ : CostLine) : Prop where
  quantity : line.quantity.val ≤ line₀.quantity.val
  unitDays : line.unitDays.val ≤ line₀.unitDays.val
  cost : line.cost.val ≤ line₀.cost.val
  unitPrice : line.unitPrice = line₀.unitPrice
  priced : line.priced = line₀.priced

section

variable (settings settings' : List AccountSettings)

/-- The backups of the domain count under the first settings and no longer under the second. -/
def SwitchedOff (domainId : String) : Prop :=
  ¬ LeavesOutBackups settings domainId ∧ LeavesOutBackups settings' domainId

instance : DecidablePred (SwitchedOff settings settings') :=
  fun _ => inferInstanceAs (Decidable (_ ∧ _))

/-- The row with its backups taken off, if its domain is switched off. -/
def withoutBackups (s : UsageSnapshot) : UsageSnapshot :=
  if SwitchedOff settings settings' s.domainId then
    { s with snapshotGib := s.snapshotGib - s.backupSnapshotGib }
  else s

/-- What a bill under the second settings is, beside the one under the first. -/
structure BackupsOff (snapshots : List UsageSnapshot) (rates : RateMap) : Prop where
  days : (costOf settings' snapshots rates).days = (costOf settings snapshots rates).days
  nonneg : ∀ line ∈ (costOf settings' snapshots rates).lines,
    0 ≤ line.quantity.val ∧ 0 ≤ line.unitDays.val ∧ 0 ≤ line.cost.val
  total_nonneg : 0 ≤ (costOf settings' snapshots rates).total.val
  total : (costOf settings' snapshots rates).total.val ≤ (costOf settings snapshots rates).total.val
  /-- The line of the snapshots shrinks, or is gone. -/
  snapshotLine : ∀ line ∈ (costOf settings' snapshots rates).lines, line.resource = .snapshotGb →
    ∃ line₀ ∈ (costOf settings snapshots rates).lines, line₀.resource = .snapshotGb ∧
      line.AtMost line₀
  others :
    ((costOf settings' snapshots rates).lines.filter fun line => line.resource ≠ .snapshotGb) =
    (costOf settings snapshots rates).lines.filter fun line => line.resource ≠ .snapshotGb
  /-- It is the bill of the rows without the backups of the domains switched off. -/
  subtracted : costOf settings' snapshots rates =
    costOf settings (snapshots.map (withoutBackups settings settings')) rates
  /-- Rows of these domains that hold no backups are billed as before, among any others. -/
  unbacked : ∀ part : List UsageSnapshot,
    (∀ s ∈ part, SwitchedOff settings settings' s.domainId → s.backupSnapshotGib = 0) →
    costOf settings' part rates = costOf settings part rates

end

/-- A pass over the cluster measures no more backups than snapshots. -/
theorem backupsWithin_of_measured {snapshots : List UsageSnapshot}
    (h : ∀ s ∈ snapshots, s.Measured) :
    BackupsWithin snapshots := by
  intro s hs
  obtain ⟨c, lists, p, hmem⟩ := h s hs
  have hvalues : s.toMeasurements = footprint c lists p := (mem_measureCluster.1 hmem).2
  rw [hvalues]
  exact tally_filter_le _

/-! ### Bills of smaller amounts -/

section

variable {rates : RateMap} {r : Resource} {x y : ℚ} {days : ℕ} {amount amount' : Resource → ℚ}

theorem monthly_nonneg (hrates : ∀ r price, rates.get? r = some price → 0 ≤ price) :
    0 ≤ (rates.get? r).getD 0 := by
  cases hprice : rates.get? r with
  | none => exact le_rfl
  | some price => exact hrates r price hprice

theorem monthlyAmount_mono (hrates : ∀ r price, rates.get? r = some price → 0 ≤ price)
    (h : x ≤ y) : monthlyAmount rates r x ≤ monthlyAmount rates r y :=
  quantize_mono 2 (mul_le_mul_of_nonneg_right (quantize_mono 2 h) (monthly_nonneg hrates))

theorem monthlyAmount_nonneg (hrates : ∀ r price, rates.get? r = some price → 0 ≤ price)
    (h : 0 ≤ x) : 0 ≤ monthlyAmount rates r x := by
  rw [← @monthlyAmount_zero rates r]
  exact monthlyAmount_mono hrates h

/-- The line of a bill that lists an amount of a resource. -/
def billedLine (rates : RateMap) (days : ℕ) (r : Resource) (amount : ℚ) : CostLine :=
  { monthlyLine rates r (amount / days) with unitDays := .ofRat (quantize 2 amount) }

theorem mem_lines_billOf {line : CostLine} : line ∈ (billOf rates days amount).lines ↔
    amount line.resource ≠ 0 ∧
      line = billedLine rates days line.resource (amount line.resource) := by
  show line ∈ List.map (fun r => billedLine rates days r (amount r)) _ ↔ _
  rw [List.mem_map]
  constructor
  · rintro ⟨r, hr, rfl⟩
    have hne : amount r ≠ 0 := by simpa using (List.mem_filter.1 hr).2
    exact ⟨hne, rfl⟩
  · rintro ⟨hne, hline⟩
    exact ⟨line.resource, List.mem_filter.2 ⟨Resource.mem_sorted _, by simpa using hne⟩, hline.symm⟩

theorem billedLine_mem (h : amount r ≠ 0) :
    billedLine rates days r (amount r) ∈ (billOf rates days amount).lines :=
  mem_lines_billOf.2 ⟨h, rfl⟩

theorem total_billOf : (billOf rates days amount).total =
    .ofRat (Resource.sorted.map fun r => monthlyAmount rates r (amount r / days)).sum := by
  rw [billOf, totalOf_charges, sum_monthlyAmount_listed fun r hr => by rw [hr, zero_div]]

theorem total_billOf_mono (hrates : ∀ r price, rates.get? r = some price → 0 ≤ price)
    (h : ∀ r, amount r ≤ amount' r) :
    (billOf rates days amount).total.val ≤ (billOf rates days amount').total.val := by
  rw [total_billOf, total_billOf]
  refine rnd_mono (List.sum_le_sum fun r _ => monthlyAmount_mono hrates ?_)
  exact div_le_div_of_nonneg_right (h r) (Nat.cast_nonneg days)

theorem total_billOf_nonneg (hrates : ∀ r price, rates.get? r = some price → 0 ≤ price)
    (h : ∀ r, 0 ≤ amount r) : 0 ≤ (billOf rates days amount).total.val := by
  rw [total_billOf]
  refine rnd_nonneg (List.sum_nonneg (List.forall_mem_map.2 fun r _ => ?_))
  exact monthlyAmount_nonneg hrates (div_nonneg (h r) (Nat.cast_nonneg days))

theorem billedLine_nonneg (hrates : ∀ r price, rates.get? r = some price → 0 ≤ price) (h : 0 ≤ x) :
    0 ≤ (billedLine rates days r x).quantity.val ∧ 0 ≤ (billedLine rates days r x).unitDays.val ∧
      0 ≤ (billedLine rates days r x).cost.val := by
  have haverage : 0 ≤ x / days := div_nonneg h (Nat.cast_nonneg days)
  exact ⟨rnd_nonneg (quantize_nonneg haverage), rnd_nonneg (quantize_nonneg h),
    rnd_nonneg (monthlyAmount_nonneg hrates haverage)⟩

theorem billedLine_atMost (hrates : ∀ r price, rates.get? r = some price → 0 ≤ price) (h : x ≤ y) :
    (billedLine rates days r x).AtMost (billedLine rates days r y) := by
  have haverage : x / days ≤ y / days := div_le_div_of_nonneg_right h (Nat.cast_nonneg days)
  exact ⟨rnd_mono (quantize_mono 2 haverage), rnd_mono (quantize_mono 2 h),
    rnd_mono (monthlyAmount_mono hrates haverage), rfl, rfl⟩

/-- Where two bills list the same of every other resource, they differ in the line of one. -/
theorem filter_lines_billOf (h : ∀ r', r' ≠ r → amount r' = amount' r') :
    ((billOf rates days amount).lines.filter fun line => line.resource ≠ r) =
      (billOf rates days amount').lines.filter fun line => line.resource ≠ r := by
  have hlines : ∀ amount : Resource → ℚ,
      ((billOf rates days amount).lines.filter fun line => line.resource ≠ r) =
        ((Resource.sorted.filter fun r' => r' ≠ r ∧ amount r' ≠ 0).map
          fun r' => billedLine rates days r' (amount r')) := by
    intro amount
    show List.filter _ (List.map (fun r' => billedLine rates days r' (amount r')) _) = _
    rw [List.filter_map, List.filter_filter]
    refine congrArg (List.map _) (List.filter_congr fun r' _ => ?_)
    rw [Bool.decide_and]
    rfl
  rw [hlines, hlines, List.filter_congr (q := fun r' => r' ≠ r ∧ amount' r' ≠ 0)]
  · refine List.map_congr_left fun r' hr' => ?_
    have hne : r' ≠ r := by
      have hboth : r' ≠ r ∧ amount' r' ≠ 0 := by simpa using (List.mem_filter.1 hr').2
      exact hboth.1
    rw [h r' hne]
  · intro r' _
    rw [decide_eq_decide]
    exact and_congr_right fun hne => by rw [h r' hne]

end

/-! ### Switching off -/

section

variable {settings settings' : List AccountSettings} {snapshots : List UsageSnapshot}
  {rates : RateMap}

/-- A row is priced as without its backups, if its domain is switched off. -/
theorem quantities_withoutBackups (h : ∀ d, LeavesOutBackups settings d →
    LeavesOutBackups settings' d)
    {s : UsageSnapshot} (hs : SwitchedOff settings settings' s.domainId →
      s.backupSnapshotGib ≤ s.snapshotGib) :
    quantities (withoutBackups settings settings' s).toMeasurements
        (countsBackups settings (withoutBackups settings settings' s).domainId) =
      quantities s.toMeasurements (countsBackups settings' s.domainId) := by
  unfold withoutBackups
  split_ifs with hoff
  · -- what is left is counted whole now
    have hleft : ((s.snapshotGib - s.backupSnapshotGib : ℕ) : ℚ) =
        ((s.snapshotGib : ℤ) - s.backupSnapshotGib : ℤ) := by
      rw [← Int.ofNat_sub (hs hoff)]
      rfl
    dsimp only
    rw [countsBackups_eq_true.2 hoff.1, countsBackups_eq_false.2 hoff.2]
    simp only [quantities, Resource.all, List.map_cons, List.map_nil, Resource.measure, Dict.set,
      snapshotGib, hleft]
    rfl
  · -- the setting of the domain is the same in both tables
    have hsame : countsBackups settings s.domainId = countsBackups settings' s.domainId := by
      by_cases hbefore : LeavesOutBackups settings s.domainId
      · rw [countsBackups_eq_false.2 hbefore, countsBackups_eq_false.2 (h _ hbefore)]
      · have hafter : ¬ LeavesOutBackups settings' s.domainId :=
          fun hafter => hoff ⟨hbefore, hafter⟩
        rw [countsBackups_eq_true.2 hbefore, countsBackups_eq_true.2 hafter]
    rw [hsame]

theorem takenOn_withoutBackups (s : UsageSnapshot) :
    (withoutBackups settings settings' s).takenOn = s.takenOn := by
  unfold withoutBackups
  split_ifs <;> rfl

theorem costOf_map {f : UsageSnapshot → UsageSnapshot} (hdays : ∀ s, (f s).takenOn = s.takenOn)
    (hquantities : ∀ s ∈ snapshots, quantities (f s).toMeasurements
      (countsBackups settings (f s).domainId) =
      quantities s.toMeasurements (countsBackups settings' s.domainId)) :
    costOf settings (snapshots.map f) rates = costOf settings' snapshots rates := by
  have hitems : unitDays settings (snapshots.map f) = unitDays settings' snapshots := by
    rw [unitDays, quantitiesOf_eq, unitDays, quantitiesOf_eq, List.flatMap_map,
      List.flatMap_congr hquantities]
  have hmeasured : measuredDays (snapshots.map f) = measuredDays snapshots := by
    rw [measuredDays, List.map_map, measuredDays]
    simp only [Function.comp_def, hdays]
  unfold costOf charges chargeOf
  rw [hitems, hmeasured]

/-- The bill is that of the rows without the backups that are switched off. -/
theorem costOf_withoutBackups (h : ∀ d, LeavesOutBackups settings d → LeavesOutBackups settings' d)
    (hwithin : BackupsWithin snapshots) : costOf settings' snapshots rates =
      costOf settings (snapshots.map (withoutBackups settings settings')) rates :=
  (costOf_map takenOn_withoutBackups fun s hs => quantities_withoutBackups h fun _ =>
    hwithin s hs).symm

/-- Where nothing is to be taken off, the rows are what they were. -/
theorem costOf_of_unbacked (h : ∀ d, LeavesOutBackups settings d → LeavesOutBackups settings' d)
    (hunbacked : ∀ s ∈ snapshots, SwitchedOff settings settings' s.domainId →
      s.backupSnapshotGib = 0) :
    costOf settings' snapshots rates = costOf settings snapshots rates := by
  have hrow : ∀ s ∈ snapshots, withoutBackups settings settings' s = s := by
    intro s hs
    unfold withoutBackups
    split_ifs with hoff
    · have hall : s.snapshotGib - s.backupSnapshotGib = s.snapshotGib := by
        rw [hunbacked s hs hoff, Nat.sub_zero]
      rw [hall]
    · rfl
  have hrows : snapshots.map (withoutBackups settings settings') = snapshots :=
    (List.map_congr_left hrow).trans (List.map_id' snapshots)
  calc costOf settings' snapshots rates
      = costOf settings (snapshots.map (withoutBackups settings settings')) rates :=
        (costOf_map takenOn_withoutBackups fun s hs => quantities_withoutBackups h fun hoff =>
          (hunbacked s hs hoff).trans_le (Nat.zero_le _)).symm
    _ = costOf settings snapshots rates := by rw [hrows]

theorem accumulated_other {r : Resource} (hr : r ≠ .snapshotGb) :
    accumulated settings' snapshots r = accumulated settings snapshots r := by
  refine congrArg List.sum (List.map_congr_left fun s _ => ?_)
  cases r <;> first | rfl | exact absurd rfl hr

theorem accumulated_le (h : ∀ d, LeavesOutBackups settings d → LeavesOutBackups settings' d)
    (r : Resource) : accumulated settings' snapshots r ≤ accumulated settings snapshots r := by
  by_cases hr : r = .snapshotGb
  · subst hr
    refine List.sum_le_sum fun s _ => ?_
    unfold billable
    split_ifs with hafter hbefore hbefore
    · exact le_rfl
    · exact sub_le_self _ (Nat.cast_nonneg _)
    · exact absurd (h _ hbefore) hafter
    · exact le_rfl
  · exact (accumulated_other hr).le

/-- **Switching backups off takes them off the bill, and nothing else.** -/
theorem switchedOff (h : ∀ d, LeavesOutBackups settings d → LeavesOutBackups settings' d)
    (hmeasured : ∀ s ∈ snapshots, s.Measured)
    (hrates : ∀ r price, rates.get? r = some price → 0 ≤ price) :
    BackupsOff settings settings' snapshots rates := by
  have hwithin : BackupsWithin snapshots := backupsWithin_of_measured hmeasured
  have hnonneg : ∀ r, 0 ≤ accumulated settings' snapshots r := fun r => accumulated_nonneg hwithin
  have hbefore : costOf settings snapshots rates = _ := costOf_eq_billOf hwithin
  have hafter : costOf settings' snapshots rates = _ := costOf_eq_billOf hwithin
  constructor
  case days => rfl
  case nonneg =>
    intro line hline
    rw [hafter, mem_lines_billOf] at hline
    rw [hline.2]
    exact billedLine_nonneg hrates (hnonneg _)
  case total_nonneg =>
    rw [hafter]
    exact total_billOf_nonneg hrates hnonneg
  case total =>
    rw [hafter, hbefore]
    exact total_billOf_mono hrates (accumulated_le h)
  case snapshotLine =>
    intro line hline hresource
    rw [hafter, mem_lines_billOf, hresource] at hline
    obtain ⟨hne, hline⟩ := hline
    -- what is left of a line was there before
    have hlisted : accumulated settings snapshots .snapshotGb ≠ 0 :=
      (lt_of_lt_of_le (lt_of_le_of_ne (hnonneg _) hne.symm) (accumulated_le h _)).ne'
    rw [hbefore, hline]
    exact ⟨_, billedLine_mem hlisted, rfl, billedLine_atMost hrates (accumulated_le h _)⟩
  case others =>
    rw [hafter, hbefore]
    exact filter_lines_billOf fun r hr => accumulated_other hr
  case subtracted => exact costOf_withoutBackups h hwithin
  case unbacked => exact fun part hpart => costOf_of_unbacked h hpart

end

/-- A row of a project with a copy made by hand and a scheduled one. -/
def backedUpRow (domainId projectId : String) : UsageSnapshot :=
  { measuredRow "" domainId projectId with
    vmsTotal := 0, vmsRunning := 0, vcpus := 0, snapshotGib := 510, backupSnapshotGib := 500 }

/-- Lists with these two copies. -/
def backedUpLists (projectId : String) : CloudLists :=
  ⟨.ok [], .ok [], .ok [], .ok [⟨some projectId, 10, none⟩, ⟨some projectId, 500, some "pg"⟩]⟩

/-- Two domains priced together, one of them switched off: of 1020 GB of copies 520 are left. -/
theorem switchedOff_oneOfTwo :
    let rows := [backedUpRow "d1" "p1", backedUpRow "d2" "p2"]
    let off : List AccountSettings := [⟨"d1", "Acme", false⟩]
    let rates : RateMap := [(.snapshotGb, 100)]
    SwitchedOff [] off "d1" ∧ ¬ SwitchedOff [] off "d2" ∧ BackupsOff [] off rows rates ∧
      (costOf [] rows rates).quantityOf .snapshotGb = .ofRat 1020 ∧
      (costOf [] rows rates).total = .ofRat 102000 ∧
      (costOf off rows rates).quantityOf .snapshotGb = .ofRat 520 ∧
      (costOf off rows rates).total = .ofRat 52000 := by
  refine ⟨by decide, by decide, switchedOff ?_ ?_ ?_, by decide +kernel, by decide +kernel,
    by decide +kernel, by decide +kernel⟩
  · rintro d ⟨-, row, hrow, -⟩
    cases hrow
  · simp only [List.forall_mem_cons]
    exact ⟨⟨.ascii, backedUpLists "p1", "p1", by decide⟩,
      ⟨.ascii, backedUpLists "p2", "p2", by decide⟩, by simp⟩
  · intro r price hprice
    cases r <;> simp [Dict.get?] at hprice
    rw [← hprice]
    norm_num

end OpenCloud
