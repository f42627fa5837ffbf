import Mathlib.Data.Finset.Max
import OpenCloud.Billing.Rates
import OpenCloud.Lib.Tallies

/-!
# The mean of the days

`costOf` adds up the rows of a period and divides by the days among them.  What it bills of a
resource is the mean, over these days, of what was held on each: the rows come in any order, a day
of a domain is split between projects in any way, and days that all hold the same are billed as one
of them.

The backup part of a measurement is at most the whole of its snapshots.

## Main results

* `costOf_eq_billOf` : a bill looks at what accumulated under each resource and at the number of
  days.
* `costOf_of_sameHoldings` : so it does not look at the projects.
* `billedByMean` : the figures of a bill.
-/

namespace OpenCloud

/-- The backup part of each row is at most the whole. -/
def BackupsWithin (snapshots : List UsageSnapshot) : Prop :=
  ∀ s ∈ snapshots, s.backupSnapshotGib ≤ s.snapshotGib

instance (snapshots : List UsageSnapshot) : Decidable (BackupsWithin snapshots) :=
  inferInstanceAs (Decidable (∀ s ∈ snapshots, _))

/-- The days measured. -/
def daysOf (snapshots : List UsageSnapshot) : List Date :=
  (snapshots.map UsageSnapshot.takenOn).dedup

/-- What a row holds of a resource that is billed; the scheduled backups of a domain that leaves
them out are no part of it. -/
def billable (settings : List AccountSettings) (s : UsageSnapshot) : Resource → ℚ
  | .vcpu => s.vcpus
  | .ramGb => s.ramMb / 1024
  | .ssdGb => s.ssdGib
  | .hddGb => s.hddGib
  | .elasticIp => s.elasticIps
  | .snapshotGb =>
    if LeavesOutBackups settings s.domainId then s.snapshotGib - s.backupSnapshotGib
    else s.snapshotGib

/-- What all rows hold of a resource. -/
def accumulated (settings : List AccountSettings) (snapshots : List UsageSnapshot) (r : Resource) :
    ℚ :=
  (snapshots.map fun s => billable settings s r).sum

/-- What the rows of a day hold of a resource. -/
def dayTotal (settings : List AccountSettings) (snapshots : List UsageSnapshot) (r : Resource)
    (day : Date) : ℚ :=
  accumulated settings (snapshots.filter fun s => s.takenOn = day) r

/-- The mean of the days measured. -/
def meanHeld (settings : List AccountSettings) (snapshots : List UsageSnapshot) (r : Resource) :
    ℚ :=
  ((daysOf snapshots).map (dayTotal settings snapshots r)).sum / (daysOf snapshots).length

/-- The quantity of a resource on a bill; a resource that is not listed has none. -/
def Cost.quantityOf (cost : Cost CostLine) (r : Resource) : Double :=
  ((cost.lines.find? fun l => l.resource = r).map fun l => l.quantity).getD (.ofRat 0)

/-- The price of a resource for a month, zero where none is quoted. -/
def monthlyPrice (rates : RateMap) (r : Resource) : ℚ := (rates.get? r).getD 0

/-- What an amount of a resource costs for a month: rounded to the hundredth, times the price, and
rounded again. -/
def monthlyAmount (rates : RateMap) (r : Resource) (amount : ℚ) : ℚ :=
  quantize 2 (quantize 2 amount * monthlyPrice rates r)

/-- The line of an amount of a resource that is held for a month. -/
def monthlyLine (rates : RateMap) (r : Resource) (amount : ℚ) : EstimateLine where
  resource := r
  label := r.label
  quantity := .ofRat (quantize 2 amount)
  unitPrice := .ofRat (monthlyPrice rates r)
  cost := .ofRat (monthlyAmount rates r amount)
  priced := (rates.get? r).isSome

/-- The bill of what accumulated under each resource over so many days. -/
def billOf (rates : RateMap) (days : ℕ) (amount : Resource → ℚ) : Cost CostLine where
  lines := (Resource.sorted.filter fun r => amount r ≠ 0).map fun r =>
    { (charge rates r (amount r / days)).line with unitDays := .ofRat (quantize 2 (amount r)) }
  total := .ofRat (totalOf ((Resource.sorted.filter fun r => amount r ≠ 0).map fun r =>
    charge rates r (amount r / days)))
  days := days

/-! ### Splitting a day between projects -/

/-- Two measurements together. -/
def Measurements.plus (a b : Measurements) : Measurements where
  vmsTotal := a.vmsTotal + b.vmsTotal
  vmsRunning := a.vmsRunning + b.vmsRunning
  vcpus := a.vcpus + b.vcpus
  ramMb := a.ramMb + b.ramMb
  ssdGib := a.ssdGib + b.ssdGib
  hddGib := a.hddGib + b.hddGib
  unlabelledGib := a.unlabelledGib + b.unlabelledGib
  elasticIps := a.elasticIps + b.elasticIps
  snapshotGib := a.snapshotGib + b.snapshotGib
  backupSnapshotGib := a.backupSnapshotGib + b.backupSnapshotGib

/-- All these measurements together. -/
def together (rows : List UsageSnapshot) : Measurements :=
  rows.foldr (fun s m => s.toMeasurements.plus m) ⟨0, 0, 0, 0, 0, 0, 0, 0, 0, 0⟩

/-- The rows of a domain on a day. -/
def rowsOn (snapshots : List UsageSnapshot) (day : Date) (domainId : String) : List UsageSnapshot :=
  snapshots.filter fun s => (s.takenOn, s.domainId) = (day, domainId)

/-- The same domains are measured on the same days, and hold the same on each: the rows of a day of
a domain are split in two ways. -/
structure SameHoldings (snapshots snapshots' : List UsageSnapshot) : Prop where
  measured : ∀ day domainId, rowsOn snapshots day domainId = [] ↔
    rowsOn snapshots' day domainId = []
  holdings : ∀ day domainId, together (rowsOn snapshots day domainId) =
    together (rowsOn snapshots' day domainId)

/-- A bill as the mean of its days. -/
structure BilledByMean (settings : List AccountSettings) (snapshots : List UsageSnapshot)
    (rates : RateMap) : Prop where
  /-- A quantity is the mean of the day totals, rounded. -/
  quantity : ∀ r, (costOf settings snapshots rates).quantityOf r =
    .ofRat (quantize 2 (meanHeld settings snapshots r))
  order : ∀ snapshots', snapshots.Perm snapshots' →
    costOf settings snapshots' rates = costOf settings snapshots rates
  split : ∀ snapshots', BackupsWithin snapshots' → SameHoldings snapshots snapshots' →
    costOf settings snapshots' rates = costOf settings snapshots rates
  /-- It is between the smallest and the largest day total, rounded. -/
  between : snapshots ≠ [] → ∀ r, ∃ least ∈ daysOf snapshots, ∃ most ∈ daysOf snapshots,
    (∀ day ∈ daysOf snapshots, dayTotal settings snapshots r least ≤
      dayTotal settings snapshots r day ∧
      dayTotal settings snapshots r day ≤ dayTotal settings snapshots r most) ∧
    quantize 2 (dayTotal settings snapshots r least) ≤ quantize 2 (meanHeld settings snapshots r) ∧
    quantize 2 (meanHeld settings snapshots r) ≤ quantize 2 (dayTotal settings snapshots r most)
  /-- Days of one shape cost that shape for a month, however many they are. -/
  unchanging : snapshots ≠ [] → ∀ shape : Resource → ℚ,
    (∀ day ∈ daysOf snapshots, ∀ r, dayTotal settings snapshots r day = shape r) →
    (costOf settings snapshots rates).lines.map CostLine.toEstimateLine =
        (Resource.sorted.filter fun r => shape r ≠ 0).map (fun r => monthlyLine rates r (shape r)) ∧
      (costOf settings snapshots rates).total =
        .ofRat (Resource.sorted.map fun r => monthlyAmount rates r (shape r)).sum

section

variable {settings : List AccountSettings} {snapshots snapshots' : List UsageSnapshot}
  {rates : RateMap} {amount : Resource → ℚ} {r : Resource} {days : ℕ}

/-! ### A bill is a function of sums -/

theorem held_eq_billable (s : UsageSnapshot) : held settings r s = billable settings s r := by
  cases r with
  | snapshotGb =>
    show ((snapshotGib s.toMeasurements (countsBackups settings s.domainId) : ℤ) : ℚ) = ite _ _ _
    by_cases hout : LeavesOutBackups settings s.domainId
    · rw [if_pos hout, countsBackups_eq_false.2 hout]
      exact Int.cast_sub _ _
    · rw [if_neg hout, countsBackups_eq_true.2 hout]
      rfl
  | vcpu => rfl
  | ramGb => rfl
  | ssdGb => rfl
  | hddGb => rfl
  | elasticIp => rfl

theorem accumulated_eq : accumulated settings snapshots r = (snapshots.map (held settings r)).sum :=
  congrArg List.sum (List.map_congr_left fun s _ => (held_eq_billable s).symm)

theorem held_nonneg (h : BackupsWithin snapshots) : ∀ s ∈ snapshots, 0 ≤ held settings r s := by
  intro s hs
  have hbackups : s.backupSnapshotGib ≤ s.snapshotGib := h s hs
  unfold held Resource.quantity
  split_ifs
  · -- the backup part is taken off, which leaves the rest
    have hcounted : ∀ withBackups, 0 ≤ snapshotGib s.toMeasurements withBackups := by
      intro withBackups
      unfold snapshotGib
      split_ifs <;> omega
    exact_mod_cast hcounted _
  · unfold Resource.measure
    cases r <;> positivity

theorem accumulated_nonneg (h : BackupsWithin snapshots) :
    0 ≤ accumulated settings snapshots r := by
  rw [accumulated_eq]
  exact List.sum_nonneg (List.forall_mem_map.2 (held_nonneg h))

theorem exists_held_iff (h : BackupsWithin snapshots) :
    (∃ s ∈ snapshots, held settings r s ≠ 0) ↔ accumulated settings snapshots r ≠ 0 := by
  rw [accumulated_eq, ← not_iff_not, not_not]
  constructor
  · intro hnone
    refine List.sum_eq_zero fun x hx => ?_
    obtain ⟨s, hs, rfl⟩ := List.mem_map.1 hx
    by_contra hne
    exact hnone ⟨s, hs, hne⟩
  · -- amounts that are not negative do not cancel
    rintro hzero ⟨s, hs, hne⟩
    refine hne (List.all_zero_of_le_zero_le_of_sum_eq_zero ?_ hzero (List.mem_map_of_mem hs))
    rw [List.forall_mem_map]
    exact held_nonneg h

theorem sortedItems_unitDays : sortedItems (unitDays settings snapshots) =
    (Resource.sorted.filter fun r => ∃ s ∈ snapshots, held settings r s ≠ 0).map fun r =>
      (r, accumulated settings snapshots r) := by
  rw [sortedItems_eq nodup_keys_unitDays, ← List.filterMap_eq_map, ← List.filterMap_eq_filter,
    List.filterMap_filterMap]
  refine List.filterMap_congr fun r _ => ?_
  rw [get?_unitDays]
  show _ = Option.bind (Option.guard _ r) _
  by_cases hr : ∃ s ∈ snapshots, held settings r s ≠ 0
  · rw [if_pos hr, ← accumulated_eq, Option.guard, if_pos (decide_eq_true hr)]
    rfl
  · rw [if_neg hr, Option.guard, if_neg (by simpa using hr)]
    rfl

theorem chargeOf_eq {q : ℚ} : chargeOf snapshots rates (r, q) =
    charge rates r (q / measuredDays snapshots) := by
  rw [chargeOf]
  dsimp only
  split_ifs with hdays
  · rw [hdays, Nat.cast_zero, div_zero]
  · rfl

/-- A bill looks at what accumulated under each resource and at the number of days. -/
theorem costOf_eq_billOf (h : BackupsWithin snapshots) : costOf settings snapshots rates =
    billOf rates (measuredDays snapshots) (accumulated settings snapshots) := by
  have hlisted : (Resource.sorted.filter fun r => ∃ s ∈ snapshots, held settings r s ≠ 0) =
      Resource.sorted.filter fun r => accumulated settings snapshots r ≠ 0 :=
    List.filter_congr fun r _ => decide_eq_decide.2 (exists_held_iff h)
  unfold costOf charges billOf
  rw [sortedItems_unitDays, hlisted, List.map_map, List.map_map]
  simp only [Function.comp_def, chargeOf_eq]

theorem find?_billed : (Resource.sorted.filter fun r => amount r ≠ 0).find? (fun r' => r' = r) =
    if amount r = 0 then none else some r := by
  split_ifs with hr
  · refine List.find?_eq_none.2 fun r' hr' => ?_
    have hne : amount r' ≠ 0 := by simpa using (List.mem_filter.1 hr').2
    simpa using fun heq : r' = r => hne (heq ▸ hr)
  · have hmem : r ∈ Resource.sorted.filter fun r => amount r ≠ 0 :=
      List.mem_filter.2 ⟨Resource.mem_sorted r, by simpa using hr⟩
    have hsome : ((Resource.sorted.filter fun r => amount r ≠ 0).find? fun r' => r' = r).isSome :=
      List.find?_isSome.2 ⟨r, hmem, decide_eq_true rfl⟩
    obtain ⟨r', hr'⟩ := Option.isSome_iff_exists.1 hsome
    have heq : r' = r := by simpa using List.find?_some hr'
    rw [hr', heq]

theorem quantityOf_billOf :
    (billOf rates days amount).quantityOf r = .ofRat (quantize 2 (amount r / days)) := by
  have hfind : ∀ f : Resource → CostLine, (∀ r, (f r).resource = r) →
      ((fun l : CostLine => decide (l.resource = r)) ∘ f) = fun r' => decide (r' = r) := by
    intro f hf
    funext r'
    rw [Function.comp_apply, hf]
  rw [Cost.quantityOf, billOf, List.find?_map, hfind _ fun _ => rfl, find?_billed]
  split_ifs with hr
  · rw [hr, zero_div, quantize_zero]
    rfl
  · rfl

/-! ### The mean -/

theorem sum_dayTotal : ((daysOf snapshots).map (dayTotal settings snapshots r)).sum =
    accumulated settings snapshots r :=
  (sum_by_own_key UsageSnapshot.takenOn (billable settings · r) snapshots).symm

theorem meanHeld_eq : meanHeld settings snapshots r =
    accumulated settings snapshots r / measuredDays snapshots := by
  rw [meanHeld, sum_dayTotal]
  rfl

theorem le_mean {l : List ℚ} {a : ℚ} (hl : l ≠ []) (h : ∀ x ∈ l, a ≤ x) : a ≤ l.sum / l.length := by
  have hlen : (0 : ℚ) < l.length := by exact_mod_cast List.length_pos_iff.2 hl
  rw [le_div_iff₀ hlen, mul_comm, ← nsmul_eq_mul]
  exact List.card_nsmul_le_sum l a h

theorem mean_le {l : List ℚ} {b : ℚ} (hl : l ≠ []) (h : ∀ x ∈ l, x ≤ b) : l.sum / l.length ≤ b := by
  have hlen : (0 : ℚ) < l.length := by exact_mod_cast List.length_pos_iff.2 hl
  rw [div_le_iff₀ hlen, mul_comm, ← nsmul_eq_mul]
  exact List.sum_le_card_nsmul l b h

theorem daysOf_ne_nil (h : snapshots ≠ []) : daysOf snapshots ≠ [] := by
  obtain ⟨s, hs⟩ := List.exists_mem_of_ne_nil snapshots h
  exact List.ne_nil_of_mem (List.mem_dedup.2 (List.mem_map_of_mem hs))

theorem meanHeld_between (h : snapshots ≠ []) :
    ∃ least ∈ daysOf snapshots, ∃ most ∈ daysOf snapshots,
      (∀ day ∈ daysOf snapshots, dayTotal settings snapshots r least ≤
        dayTotal settings snapshots r day ∧
        dayTotal settings snapshots r day ≤ dayTotal settings snapshots r most) ∧
      dayTotal settings snapshots r least ≤ meanHeld settings snapshots r ∧
      meanHeld settings snapshots r ≤ dayTotal settings snapshots r most := by
  have hdays := daysOf_ne_nil h
  have hnonempty : (daysOf snapshots).toFinset.Nonempty := List.toFinset_nonempty_iff _ |>.2 hdays
  obtain ⟨least, hleast, hmin⟩ :=
    Finset.exists_min_image _ (dayTotal settings snapshots r) hnonempty
  obtain ⟨most, hmost, hmax⟩ := Finset.exists_max_image _ (dayTotal settings snapshots r) hnonempty
  simp only [List.mem_toFinset] at hleast hmin hmost hmax
  have hmap : (daysOf snapshots).map (dayTotal settings snapshots r) ≠ [] := by simpa using hdays
  have hlo := le_mean hmap (List.forall_mem_map.2 hmin)
  have hhi := mean_le hmap (List.forall_mem_map.2 hmax)
  rw [List.length_map] at hlo hhi
  exact ⟨least, hleast, most, hmost, fun day hday => ⟨hmin day hday, hmax day hday⟩, hlo, hhi⟩

/-! ### Splitting a day -/

theorem quantity_plus (a b : Measurements) (withBackups : Bool) :
    r.quantity (a.plus b) withBackups = r.quantity a withBackups + r.quantity b withBackups := by
  unfold Resource.quantity
  split_ifs
  · unfold snapshotGib Measurements.plus
    split_ifs <;> push_cast <;> ring
  · unfold Measurements.plus
    cases r <;> simp only [Resource.measure] <;> push_cast <;> ring

theorem quantity_together (rows : List UsageSnapshot) (withBackups : Bool) :
    r.quantity (together rows) withBackups =
      (rows.map fun s => r.quantity s.toMeasurements withBackups).sum := by
  induction rows with
  | nil => cases r <;> cases withBackups <;>
    simp [together, Resource.quantity, Resource.measure, snapshotGib]
  | cons s rows ih =>
    rw [List.map_cons, List.sum_cons, ← ih, ← quantity_plus]
    rfl

theorem accumulated_rowsOn (day : Date) (domainId : String) :
    accumulated settings (rowsOn snapshots day domainId) r =
      r.quantity (together (rowsOn snapshots day domainId)) (countsBackups settings domainId) := by
  rw [quantity_together, accumulated_eq]
  refine congrArg List.sum (List.map_congr_left fun s hs => ?_)
  have hdomain : s.domainId = domainId := by
    have hkey : (s.takenOn, s.domainId) = (day, domainId) := by simpa using (List.mem_filter.1 hs).2
    exact (Prod.mk.inj hkey).2
  rw [held, hdomain]

/-- The days and domains measured. -/
def groupsOf (snapshots : List UsageSnapshot) : List (Date × String) :=
  (snapshots.map fun s => (s.takenOn, s.domainId)).dedup

theorem mem_groupsOf {group : Date × String} :
    group ∈ groupsOf snapshots ↔ rowsOn snapshots group.1 group.2 ≠ [] := by
  rw [groupsOf, List.mem_dedup, List.mem_map, rowsOn, ne_eq, List.filter_eq_nil_iff, not_forall]
  simp

theorem SameHoldings.groups (h : SameHoldings snapshots snapshots') :
    (groupsOf snapshots).Perm (groupsOf snapshots') := by
  refine (List.perm_ext_iff_of_nodup (List.nodup_dedup _) (List.nodup_dedup _)).2 fun group => ?_
  rw [← groupsOf, ← groupsOf, mem_groupsOf, mem_groupsOf]
  exact not_congr (h.measured group.1 group.2)

theorem SameHoldings.accumulated_eq (h : SameHoldings snapshots snapshots') :
    accumulated settings snapshots r = accumulated settings snapshots' r := by
  have hgroups : ∀ snapshots : List UsageSnapshot, accumulated settings snapshots r =
      ((groupsOf snapshots).map fun group =>
        accumulated settings (rowsOn snapshots group.1 group.2) r).sum :=
    fun snapshots => sum_by_own_key (fun s : UsageSnapshot => (s.takenOn, s.domainId))
      (billable settings · r)
      snapshots
  -- group by day and domain, since a domain has one setting for its backups
  rw [hgroups snapshots, hgroups snapshots', ← (h.groups.map _).sum_eq]
  refine congrArg List.sum (List.map_congr_left fun group _ => ?_)
  rw [accumulated_rowsOn, accumulated_rowsOn, h.holdings]

theorem SameHoldings.measuredDays_eq (h : SameHoldings snapshots snapshots') :
    measuredDays snapshots = measuredDays snapshots' := by
  have hdays : ∀ (snapshots : List UsageSnapshot) (day : Date),
      day ∈ daysOf snapshots ↔ ∃ domainId, (day, domainId) ∈ groupsOf snapshots := by
    intro snapshots day
    simp [daysOf, groupsOf]
  refine List.Perm.length_eq
    ((List.perm_ext_iff_of_nodup (List.nodup_dedup _) (List.nodup_dedup _)).2
    fun day => ?_)
  rw [← daysOf, ← daysOf, hdays, hdays]
  exact exists_congr fun _ => h.groups.mem_iff

/-- How the holdings of a day and domain are split between rows does not matter. -/
theorem costOf_of_sameHoldings (h : SameHoldings snapshots snapshots')
    (hwithin : BackupsWithin snapshots) (hwithin' : BackupsWithin snapshots') :
    costOf settings snapshots' rates = costOf settings snapshots rates := by
  rw [costOf_eq_billOf hwithin, costOf_eq_billOf hwithin', h.measuredDays_eq]
  congr 1
  funext r
  exact h.accumulated_eq.symm

/-! ### Days of one shape -/

theorem monthlyAmount_zero : monthlyAmount rates r 0 = 0 := by
  simp only [monthlyAmount, quantize_zero, zero_mul]

theorem sum_monthlyAmount_listed {shape : Resource → ℚ} {f : Resource → ℚ}
    (h : ∀ r, shape r = 0 → f r = 0) :
    ((Resource.sorted.filter fun r => shape r ≠ 0).map fun r => monthlyAmount rates r (f r)).sum =
      (Resource.sorted.map fun r => monthlyAmount rates r (f r)).sum := by
  have hunlisted : ((Resource.sorted.filter fun r => ¬ shape r ≠ 0).map
      fun r => monthlyAmount rates r (f r)).sum = 0 := by
    refine List.sum_eq_zero (List.forall_mem_map.2 fun r hr => ?_)
    have hzero : shape r = 0 := by simpa using (List.mem_filter.1 hr).2
    rw [h r hzero, monthlyAmount_zero]
  have hsplit := List.sum_map_filter_add_sum_map_filter_not (fun r => shape r ≠ 0)
    (fun r => monthlyAmount rates r (f r)) Resource.sorted
  rwa [hunlisted, add_zero] at hsplit

theorem totalOf_charges (resources : List Resource) (f : Resource → ℚ) :
    totalOf (resources.map fun r => charge rates r (f r)) =
      (resources.map fun r => monthlyAmount rates r (f r)).sum := by
  rw [totalOf, List.map_map]
  rfl

theorem billOf_of_shape {shape : Resource → ℚ} (hdays : days ≠ 0)
    (hamount : ∀ r, amount r = days * shape r) :
    (billOf rates days amount).lines.map CostLine.toEstimateLine =
        (Resource.sorted.filter fun r => shape r ≠ 0).map (fun r => monthlyLine rates r (shape r)) ∧
      (billOf rates days amount).total =
        .ofRat (Resource.sorted.map fun r => monthlyAmount rates r (shape r)).sum := by
  have hne : (days : ℚ) ≠ 0 := Nat.cast_ne_zero.2 hdays
  have haverage : ∀ r, amount r / days = shape r := by
    intro r
    rw [hamount, mul_div_cancel_left₀ _ hne]
  have hlisted : (Resource.sorted.filter fun r => amount r ≠ 0) = Resource.sorted.filter fun r =>
    shape r ≠ 0 := by
    refine List.filter_congr fun r _ => ?_
    rw [decide_eq_decide, hamount]
    exact ⟨right_ne_zero_of_mul, mul_ne_zero hne⟩
  simp only [billOf, hlisted, haverage, totalOf_charges, List.map_map]
  exact ⟨rfl, by rw [sum_monthlyAmount_listed fun _ => id]⟩

theorem accumulated_of_unchanging {shape : Resource → ℚ}
    (h : ∀ day ∈ daysOf snapshots, dayTotal settings snapshots r day = shape r) :
    accumulated settings snapshots r = measuredDays snapshots * shape r := by
  rw [← sum_dayTotal, List.map_congr_left h, List.map_const', List.sum_replicate, nsmul_eq_mul]
  rfl

/-- **A bill is the mean of its days.** -/
theorem billedByMean (h : BackupsWithin snapshots) : BilledByMean settings snapshots rates where
  quantity r := by
    rw [costOf_eq_billOf h, quantityOf_billOf, meanHeld_eq]
  order _ hperm := (costOf_perm hperm).symm
  split _ hwithin hsame := costOf_of_sameHoldings hsame h hwithin
  between hne r := by
    obtain ⟨least, hleast, most, hmost, hbounds, hlo, hhi⟩ :=
      @meanHeld_between settings snapshots r hne
    exact ⟨least, hleast, most, hmost, hbounds, quantize_mono 2 hlo, quantize_mono 2 hhi⟩
  unchanging hne shape hshape := by
    rw [costOf_eq_billOf h]
    have hdays : measuredDays snapshots ≠ 0 :=
      (List.length_pos_iff.2 (daysOf_ne_nil hne)).ne'
    exact billOf_of_shape hdays fun r => accumulated_of_unchanging fun day hday => hshape day hday r

end

/-- Two projects of a domain on one day. -/
theorem billedByMean_twoProjects :
    BackupsWithin [measuredRow "Acme" "d1" "p1", measuredRow "Acme" "d1" "p2"] ∧
    BilledByMean [] [measuredRow "Acme" "d1" "p1", measuredRow "Acme" "d1" "p2"] [(.vcpu, 46000)] :=
  ⟨by decide, billedByMean (by decide)⟩

end OpenCloud
