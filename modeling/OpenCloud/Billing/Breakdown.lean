import Mathlib.Algebra.BigOperators.Ring.List
import OpenCloud.Billing.Averages
import OpenCloud.Billing.Usage

/-!
# The account and its projects

A page shows the bill of an account beside the bills of its projects.  Each bill is the mean over
the days found among its own rows, so a project that was measured on some of the days counts in the
account's figure for that share of them.

## Main results

* `quantityOf_costOf` : the quantity of a resource is what the rows hold over the days among them,
  rounded.
* `projectCosts_perm` : the projects of a page are those of its rows, each with the bill of its own
  rows.
* `addsUp` : the projects, each for its days, add up to the account within the rounding.
-/

namespace OpenCloud

/-- The quantity of a resource on the bill of these rows, exact. -/
def billedAverage (settings : List AccountSettings) (snapshots : List UsageSnapshot)
    (r : Resource) : ℚ :=
  quantize 2 (accumulated settings snapshots r / measuredDays snapshots)

/-- The projects measured. -/
def projectsOf (snapshots : List UsageSnapshot) : List String :=
  (snapshots.map UsageSnapshot.projectId).dedup

/-- The rows of a project. -/
def projectRows (snapshots : List UsageSnapshot) (projectId : String) : List UsageSnapshot :=
  snapshots.filter fun s => s.projectId = projectId

/-- The share of the days on which the project was measured. -/
def measuredShare (snapshots : List UsageSnapshot) (projectId : String) : ℚ :=
  measuredDays (projectRows snapshots projectId) / measuredDays snapshots

/-- A project of a page with its bill. -/
def ProjectCost.bill (p : ProjectCost) : String × Cost CostLine :=
  (p.id, ⟨p.lines, p.total, p.days⟩)

def CabinetProject.bill (p : CabinetProject) : String × Cost CostLine :=
  (p.id, ⟨p.lines, p.total, p.days⟩)

/-- The bills of an account and of its projects, shown side by side. -/
structure AddsUp (settings : List AccountSettings) (snapshots : List UsageSnapshot)
    (rates : RateMap) (account : Cost CostLine) (projects : List (String × Cost CostLine)) :
    Prop where
  /-- A project has the bill of its own rows. -/
  bills : projects.Perm ((projectsOf snapshots).map fun p =>
    (p, costOf settings (projectRows snapshots p) rates))
  /-- The figures shown, before they are floats. -/
  quantity : ∀ r, account.quantityOf r = .ofRat (billedAverage settings snapshots r) ∧
    ∀ bill ∈ projects, bill.2.quantityOf r =
      .ofRat (billedAverage settings (projectRows snapshots bill.1) r)
  /-- The days shown. -/
  days : account.days = measuredDays snapshots ∧
    ∀ bill ∈ projects, bill.2.days = measuredDays (projectRows snapshots bill.1)
  /-- Each project for its share of the days, they add up to the account. -/
  weighted :
    ∀ r, |(projects.map fun bill => billedAverage settings (projectRows snapshots bill.1) r *
      (bill.2.days / account.days)).sum - billedAverage settings snapshots r| ≤ 0.005 *
        (projects.length + 1)
  /-- Where every project was measured on every day, the figures shown add up. -/
  throughout : (∀ bill ∈ projects, bill.2.days = account.days) → ∀ r,
    |(projects.map fun bill => billedAverage settings (projectRows snapshots bill.1) r).sum -
      billedAverage settings snapshots r| ≤ 0.005 * (projects.length + 1)

section

variable {settings : List AccountSettings} {snapshots : List UsageSnapshot} {rates : RateMap}
  {r : Resource} {p : String}

/-- The item of a resource, among those in the order of the resources. -/
theorem find?_sortedItems {d : Dict Resource ℚ} (hd : d.keys.Nodup) :
    (sortedItems d).find? (fun e => e.1 = r) = (d.get? r).map (r, ·) := by
  have hmem : ∀ e : Resource × ℚ, e ∈ sortedItems d ↔ d.get? e.1 = some e.2 := fun e => by
    rw [sortedItems, List.mem_insertionSort, ← Dict.mem_iff_get? hd]
  cases hget : d.get? r with
  | none =>
    refine List.find?_eq_none.2 fun e he => ?_
    rw [hmem] at he
    simp only [decide_eq_true_eq]
    rintro rfl
    rw [hget] at he
    cases he
  | some q =>
    have hsome : ((sortedItems d).find? fun e => e.1 = r).isSome :=
      List.find?_isSome.2 ⟨(r, q), (hmem (r, q)).2 hget, decide_eq_true rfl⟩
    obtain ⟨e, he⟩ := Option.isSome_iff_exists.1 hsome
    have hkey : e.1 = r := by simpa using List.find?_some he
    have hval : d.get? e.1 = some e.2 := (hmem e).1 (List.mem_of_find?_eq_some he)
    rw [hkey, hget] at hval
    rw [he, Option.map_some, Option.some.inj hval, ← hkey]

/-- The quantity of a resource is what the rows hold over the days among them, rounded. -/
theorem quantityOf_costOf :
    (costOf settings snapshots rates).quantityOf r =
      .ofRat (billedAverage settings snapshots r) := by
  have hfind : ((fun l : CostLine => decide (l.resource = r)) ∘ fun e : Resource × ℚ =>
      ({ (chargeOf snapshots rates e).line with unitDays := .ofRat (quantize 2 e.2) } : CostLine)) =
        fun e => decide (e.1 = r) := rfl
  have hheld : ((unitDays settings snapshots).get? r).getD 0 = accumulated settings snapshots r :=
    (getD_unitDays r).trans accumulated_eq.symm
  rw [Cost.quantityOf, costOf, List.find?_map, hfind, find?_sortedItems nodup_keys_unitDays,
    billedAverage, ← hheld]
  cases (unitDays settings snapshots).get? r with
  | none => rw [Option.getD_none, zero_div, quantize_zero]; rfl
  | some q =>
    -- no days means no rows, and nothing to divide
    have haverage : (if measuredDays snapshots = 0 then 0 else q / measuredDays snapshots) =
        q / measuredDays snapshots := by
      split_ifs with hdays
      · rw [hdays, Nat.cast_zero, div_zero]
      · rfl
    show Double.ofRat
      (quantize 2 (if measuredDays snapshots = 0 then 0 else q / measuredDays snapshots)) = _
    rw [haverage]
    rfl

/-- The projects of a page are those of its rows, each with the bill of its own rows. -/
theorem projectCosts_perm : ((projectCosts settings snapshots rates).map ProjectCost.bill).Perm
    ((projectsOf snapshots).map fun p => (p, costOf settings (projectRows snapshots p) rates)) := by
  have hgroups := Dict.group_perm UsageSnapshot.projectId snapshots
  refine ((List.perm_insertionSort _ _).map ProjectCost.bill).trans ?_
  have hbills : ∀ groups : List (String × List UsageSnapshot), (∀ e ∈ groups, e.2 ≠ []) →
      (groups.filterMap fun e =>
        let cost := costOf settings e.2 rates
        (Table.firstBy (fun a b : UsageSnapshot => b.takenOn ≤ a.takenOn) e.2).map fun latest =>
          ({ id := e.1, name := orElse latest.projectName e.1, total := cost.total
             days := cost.days, lines := cost.lines, latestOn := latest.takenOn.toStr
             latest := latest.toMeasurements } : ProjectCost)).map ProjectCost.bill =
        groups.map fun e => (e.1, costOf settings e.2 rates) := by
    intro groups hgroups
    rw [List.map_filterMap, ← List.filterMap_eq_map]
    refine List.filterMap_congr fun e he => ?_
    cases hlatest : Table.firstBy (fun a b : UsageSnapshot => b.takenOn ≤ a.takenOn) e.2 with
    | none => exact absurd (Table.firstBy_eq_none_iff.1 hlatest) (hgroups e he)
    | some latest => rfl
  rw [hbills]
  · refine (hgroups.map _).trans (List.Perm.of_eq ?_)
    rw [List.map_map]
    rfl
  · -- a group holds the row its key came from
    intro e he
    obtain ⟨⟨s, hs, hkey⟩, hrows⟩ := Dict.mem_group_iff.1 he
    rw [hrows]
    exact List.ne_nil_of_mem (List.mem_filter.2 ⟨hs, by simpa using hkey⟩)

theorem abs_sum_sub_le {α : Type*} {l : List α} {f g : α → ℚ} {e : ℚ}
    (h : ∀ a ∈ l, |f a - g a| ≤ e) :
    |(l.map f).sum - (l.map g).sum| ≤ e * l.length := by
  induction l with
  | nil => simp
  | cons a l ih =>
    obtain ⟨ha, hl⟩ := List.forall_mem_cons.1 h
    calc |((a :: l).map f).sum - ((a :: l).map g).sum|
        = |(f a - g a) + ((l.map f).sum - (l.map g).sum)| := by
          rw [List.map_cons, List.sum_cons, List.map_cons, List.sum_cons]
          ring_nf
      _ ≤ |f a - g a| + |(l.map f).sum - (l.map g).sum| := abs_add_le _ _
      _ ≤ e + e * l.length := add_le_add ha (ih hl)
      _ = e * (a :: l).length := by
          rw [List.length_cons]
          push_cast
          ring

theorem measuredDays_projectRows_le :
    measuredDays (projectRows snapshots p) ≤ measuredDays snapshots := by
  refine (List.subperm_of_subset (List.nodup_dedup _) fun day hday => ?_).length_le
  obtain ⟨s, hs, rfl⟩ := List.mem_map.1 (List.mem_dedup.1 hday)
  exact List.mem_dedup.2 (List.mem_map_of_mem (List.mem_of_mem_filter hs))

theorem measuredDays_projectRows_ne_zero (h : p ∈ projectsOf snapshots) :
    measuredDays (projectRows snapshots p) ≠ 0 := by
  obtain ⟨s, hs, hp⟩ := List.mem_map.1 (List.mem_dedup.1 h)
  have hrow : s ∈ projectRows snapshots p := List.mem_filter.2 ⟨hs, by simpa using hp⟩
  exact (List.length_pos_iff.2 (daysOf_ne_nil (List.ne_nil_of_mem hrow))).ne'

theorem abs_billedAverage_mul_share_sub_le (h : p ∈ projectsOf snapshots) :
    |billedAverage settings (projectRows snapshots p) r * measuredShare snapshots p -
      accumulated settings (projectRows snapshots p) r / measuredDays snapshots| ≤ 0.005 := by
  have hdays : (measuredDays (projectRows snapshots p) : ℚ) ≠ 0 :=
    Nat.cast_ne_zero.2 (measuredDays_projectRows_ne_zero h)
  have hshare : 0 ≤ measuredShare snapshots p := div_nonneg (Nat.cast_nonneg _) (Nat.cast_nonneg _)
  have hone : measuredShare snapshots p ≤ 1 :=
    div_le_one_of_le₀ (Nat.cast_le.2 measuredDays_projectRows_le) (Nat.cast_nonneg _)
  have hmean : accumulated settings (projectRows snapshots p) r / measuredDays snapshots =
      accumulated settings (projectRows snapshots p) r / measuredDays (projectRows snapshots p) *
        measuredShare snapshots p := by
    rw [measuredShare, ← mul_div_assoc, div_mul_cancel₀ _ hdays]
  rw [hmean, ← sub_mul, abs_mul, abs_of_nonneg hshare]
  calc _ ≤ 1 / 2 / 10 ^ 2 * (1 : ℚ) :=
    mul_le_mul (abs_quantize_sub_le 2 _) hone hshare (by norm_num)
    _ = 0.005 := by norm_num

/-- The projects, each for its days, add up to the account within the rounding. -/
theorem abs_sum_weighted_sub_le : |((projectsOf snapshots).map fun p =>
    billedAverage settings (projectRows snapshots p) r * measuredShare snapshots p).sum -
      billedAverage settings snapshots r| ≤ 0.005 * ((projectsOf snapshots).length + 1) := by
  have hprojects := abs_sum_sub_le fun p hp =>
    @abs_billedAverage_mul_share_sub_le settings snapshots r p hp
  have hmean : ((projectsOf snapshots).map fun p =>
      accumulated settings (projectRows snapshots p) r / measuredDays snapshots).sum =
        accumulated settings snapshots r / measuredDays snapshots := by
    simp only [div_eq_mul_inv]
    rw [List.sum_map_mul_right]
    exact congrArg (· * _)
      (sum_by_own_key UsageSnapshot.projectId (billable settings · r) snapshots).symm
  have haccount := abs_quantize_sub_le 2 (accumulated settings snapshots r / measuredDays snapshots)
  rw [hmean, abs_le] at hprojects
  rw [abs_le] at haccount
  norm_num at hprojects haccount
  unfold billedAverage at *
  rw [abs_le]
  constructor <;> linarith

/-- **The bills of the projects of some rows, beside the bill of the rows.** -/
theorem addsUp {projects : List (String × Cost CostLine)} (h : projects.Perm
    ((projectsOf snapshots).map fun p => (p, costOf settings (projectRows snapshots p) rates))) :
    AddsUp settings snapshots rates (costOf settings snapshots rates) projects := by
  have hbill : ∀ bill ∈ projects, bill.2 =
    costOf settings (projectRows snapshots bill.1) rates := by
    intro bill hmem
    obtain ⟨p, -, rfl⟩ := List.mem_map.1 (h.mem_iff.1 hmem)
    rfl
  have hlength : projects.length = (projectsOf snapshots).length := by
    rw [h.length_eq, List.length_map]
  have hweighted :
    ∀ r, |(projects.map fun bill => billedAverage settings (projectRows snapshots bill.1) r *
      (bill.2.days / (costOf settings snapshots rates).days)).sum -
        billedAverage settings snapshots r| ≤
        0.005 * (projects.length + 1) := by
    intro r
    rw [(h.map _).sum_eq, List.map_map, hlength]
    exact abs_sum_weighted_sub_le
  refine ⟨h, fun r => ⟨quantityOf_costOf, fun bill hmem => ?_⟩, ⟨rfl, fun bill hmem => ?_⟩,
    hweighted, ?_⟩
  · rw [hbill bill hmem]
    exact quantityOf_costOf
  · rw [hbill bill hmem]
    rfl
  · intro hdays r
    have hshares : ∀ bill ∈ projects, billedAverage settings (projectRows snapshots bill.1) r *
        (bill.2.days / (costOf settings snapshots rates).days) =
          billedAverage settings (projectRows snapshots bill.1) r := by
      intro bill hmem
      obtain ⟨p, hp, rfl⟩ := List.mem_map.1 (h.mem_iff.1 hmem)
      have hne : ((costOf settings (projectRows snapshots p) rates).days : ℚ) ≠ 0 :=
        Nat.cast_ne_zero.2 (measuredDays_projectRows_ne_zero hp)
      rw [← hdays _ hmem, div_self hne, mul_one]
    have hsum := hweighted r
    rw [List.map_congr_left hshares] at hsum
    exact hsum

end

/-- A project measured on two days and one measured on the first of them. -/
def partlyMeasured : List UsageSnapshot :=
  [measuredRow "Acme" "d1" "p1", { measuredRow "Acme" "d1" "p1" with takenOn := august.last },
    measuredRow "Acme" "d1" "p2"]

/-- Four processors in each of two projects, and six in the account: the quantities shown do not add
up. -/
theorem quantities_of_partlyMeasured :
    ¬ ∀ (settings : List AccountSettings) (snapshots : List UsageSnapshot)
    (rates : RateMap) (r : Resource),
    |((projectsOf snapshots).map fun p =>
        ((costOf settings (projectRows snapshots p) rates).quantityOf r).val).sum -
      ((costOf settings snapshots rates).quantityOf r).val| ≤ 0.005 *
        ((projectsOf snapshots).length + 1) := by
  intro h
  exact absurd (h [] partlyMeasured [] .vcpu) (by decide +kernel)

section Pages

variable {c : Casing} {s : Settings} {cloud : Cloud} {user : CabinetUser} {db : Db} {m : Month}
  {name : String} {months : ℕ}

/-- **The projects add up to the account, each for the days on which it was measured**: for the rows
of any account, on the cabinet's page and on the operators'. -/
theorem projects_add_up :
    (∀ settings snapshots rates, AddsUp settings snapshots rates (costOf settings snapshots rates)
      ((projectsOf snapshots).map fun p => (p, costOf settings (projectRows snapshots p) rates))) ∧
    (∀ page, adminBillingGet c cloud user db m = .ok page → ∃ account domainId,
      accountDomain c cloud user = .ok (account, domainId) ∧
        AddsUp db.accountSettings ((domainRows db domainId m).insertionSort UsageSnapshot.le)
          (cabinetRates c db account) page.cost (page.projects.map CabinetProject.bill)) ∧
    ∀ page, accountBillingGet c s name m db months = .ok page →
      AddsUp db.accountSettings (pageRows c db page.account page.domainId m)
        (operatorRates c db page.account)
        page.cost (page.projects.map ProjectCost.bill) := by
  refine ⟨fun _ _ _ => addsUp (List.Perm.refl _), ?_, ?_⟩
  · intro page hpage
    obtain ⟨account, domainId, hscope, rfl⟩ := adminBillingGet_eq_ok hpage
    refine ⟨account, domainId, hscope, addsUp ?_⟩
    rw [usagePage, List.map_map]
    exact projectCosts_perm
  · intro page hpage
    obtain ⟨-, hcost, hprojects, -, -⟩ := accountBillingGet_eq_ok hpage
    rw [hcost, hprojects]
    exact addsUp projectCosts_perm

end Pages

/-- The tables of that account. -/
def partlyMeasuredDb : Db :=
  { pricedDb "Acme" (measuredRow "Acme" "d1" "p1") with
    usageSnapshots := ⟨partlyMeasured, by decide⟩ }

/-- Both pages of the account whose projects were measured on two days and on one. -/
theorem projects_add_up_twoProjects :
    (∃ account domainId, accountDomain .ascii emptyAccount accountAdmin = .ok (account, domainId) ∧
      (usagePage .ascii partlyMeasuredDb "Acme" "d1" august).projects.map (fun p => p.bill.2.days) =
        [2, 1] ∧
        AddsUp [] ((domainRows partlyMeasuredDb domainId august).insertionSort UsageSnapshot.le)
          (cabinetRates .ascii partlyMeasuredDb account)
          (usagePage .ascii partlyMeasuredDb "Acme" "d1" august).cost
          ((usagePage .ascii partlyMeasuredDb "Acme" "d1" august).projects.map
            CabinetProject.bill)) ∧
    ∃ page, accountBillingGet .ascii plainSettings "acme" august partlyMeasuredDb 6 = .ok page ∧
      AddsUp [] (pageRows .ascii partlyMeasuredDb page.account page.domainId august)
        (operatorRates .ascii partlyMeasuredDb page.account) page.cost
          (page.projects.map ProjectCost.bill) := by
  obtain ⟨-, hcabinet, hoperators⟩ :=
    @projects_add_up .ascii plainSettings emptyAccount accountAdmin
    partlyMeasuredDb august "acme" 6
  obtain ⟨page, hpage, -, -⟩ := @exists_accountBillingGet .ascii partlyMeasuredDb "Acme" "d1" "acme"
    (by decide +kernel) plainSettings august 6
  have hscope : accountDomain .ascii emptyAccount accountAdmin = .ok ("Acme", "d1") := by
    decide +kernel
  obtain ⟨account, domainId, hscope, hadds⟩ :=
    hcabinet _ (adminBillingGet_of_accountDomain hscope august)
  exact ⟨⟨account, domainId, hscope, by decide +kernel, hadds⟩, page, hpage, hoperators page hpage⟩

end OpenCloud
