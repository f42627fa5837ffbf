import OpenCloud.Billing.Paper
import OpenCloud.Platform.Overview

/-!
# The overview loses and repeats nothing

The overview of a month groups the measurements twice: by domain, or by name where there is none,
into its rows, and the rows by currency into the totals.  A row shows its price as a float, and the
figure of a currency is the sum of what these floats print, as a float again: up to fifteen digits
it is that sum.

## Main results

* `overviewGroups_partition` : every measurement of the month is in one group, with all those of its
  domain.
* `totalsAgree` : what the totals say of any rows.
* `overview_conserves` : both, of the overview.
-/

namespace OpenCloud

/-- The currency a row is billed in, a dash if it has none. -/
def OverviewRow.billedIn (row : OverviewRow) : String := orElse (row.currency.getD "") "—"

/-- The rows that are billed in a currency. -/
def billedRows (rows : List OverviewRow) (currency : String) : List OverviewRow :=
  rows.filter fun row => row.total.val ≠ 0 ∧ row.billedIn = currency

/-- What they add up to, as their totals print. -/
def billedSum (rows : List OverviewRow) (currency : String) : ℚ :=
  ((billedRows rows currency).map fun row => row.total.decimal).sum

/-- The rows are billed in one currency. -/
def BilledInOne (rows : List OverviewRow) (currency : String) : Prop :=
  (∃ row ∈ rows, row.total.val ≠ 0) ∧ ∀ row ∈ rows, row.total.val ≠ 0 → row.billedIn = currency

/-- The groups hold each measurement of the month once, those of a domain together and apart from
the others. -/
structure Partition (m : Month) (db : Db) (groups : List (List UsageSnapshot)) : Prop where
  once : groups.flatten.Perm (db.usageSnapshots.rows.filter fun row => m.Covers row.takenOn)
  together : ∀ group ∈ groups, ∀ a ∈ group, ∀ b ∈ db.usageSnapshots.rows, m.Covers b.takenOn →
    a.domainId ≠ "" → b.domainId = a.domainId → b ∈ group
  apart : ∀ group ∈ groups, ∀ a ∈ group, ∀ b ∈ group, a.domainId = b.domainId

/-- The row of a group: its figures are the cost of the group's measurements at the prices of the
account of the newest one, and it is billed in the currency of their list. -/
structure PricesGroup (c : Casing) (s : Settings) (m : Month) (db : Db) (row : OverviewRow)
    (group : List UsageSnapshot) (latest : UsageSnapshot) : Prop where
  newest : group.getLast? = some latest
  shown : row = overviewRow c s m db group latest
  account : row.account = latest.account
  total : row.total =
    (costOf db.accountSettings group
      (rateMap db.tariffRates (tariffOf c db.tariffs latest.account))).total
  daysMeasured : row.daysMeasured = measuredDays group
  currency : row.currency = (tariffOf c db.tariffs latest.account).map Tariff.currency

/-- What the totals say of the rows. -/
structure TotalsAgree (rows : List OverviewRow) (totals : ClusterTotals) : Prop where
  currencies : ∀ currency, currency ∈ totals.byCurrency.map Prod.fst ↔ ∃ row ∈ rows,
    row.total.val ≠ 0 ∧ row.billedIn = currency
  once : (totals.byCurrency.map Prod.fst).Nodup
  figures : ∀ e ∈ totals.byCurrency, e.2 = .ofRat (billedSum rows e.1)
  /-- To the last digit, as long as there are no more than fifteen. -/
  exact : ∀ e ∈ totals.byCurrency, Fifteen (billedSum rows e.1) → e.2.decimal = billedSum rows e.1
  single : totals.total.isSome ↔ ∃ currency, BilledInOne rows currency
  singleFigure : ∀ total, totals.total = some total →
    total = .ofRat (rows.map fun row => row.total.decimal).sum ∧
      (Fifteen (rows.map fun row => row.total.decimal).sum →
        total.decimal = (rows.map fun row => row.total.decimal).sum)
  decreasing : totals.byCurrency.Pairwise fun a b => b.2.val ≤ a.2.val

/-! ### The totals -/

section Totals

variable {rows : List OverviewRow} {currency : String}

theorem decimal_eq_zero {d : Double} (h : d.val = 0) : d.decimal = 0 := by
  have hd : d = .ofRat 0 := by
    obtain ⟨v, hv⟩ := d
    obtain rfl : v = 0 := h
    simp [Double.ofRat]
  rw [hd, Double.decimal_zero]

/-- `per_currency` of `clusterTotals`. -/
def perCurrency (rows : List OverviewRow) : Dict String ℚ :=
  Dict.collect (fun row : OverviewRow => if row.total.val = 0 then none else some row.billedIn) 0
    (fun row sum => sum + row.total.decimal) [] rows

theorem nodup_keys_perCurrency : (perCurrency rows).keys.Nodup :=
  Dict.nodup_keys_collect (d := []) List.nodup_nil rows

theorem key_eq_some {row : OverviewRow} :
    (if row.total.val = 0 then none else some row.billedIn) = some currency ↔
      row.total.val ≠ 0 ∧ row.billedIn = currency := by
  split_ifs with h
  · simp [h]
  · simp [h]

theorem getD_perCurrency : ((perCurrency rows).get? currency).getD 0 = billedSum rows currency := by
  have hsum : ∀ (rows : List OverviewRow) (x : ℚ),
    rows.foldl (fun sum row => sum + row.total.decimal) x =
      x + (rows.map fun row => row.total.decimal).sum := by
    intro rows
    induction rows with
    | nil => simp
    | cons row rows ih =>
      intro x
      rw [List.foldl_cons, ih, List.map_cons, List.sum_cons, add_assoc]
  rw [perCurrency, Dict.getD_collect, hsum]
  simp only [key_eq_some, Dict.get?, Option.getD_none, zero_add]
  rfl

theorem mem_keys_perCurrency :
    currency ∈ (perCurrency rows).keys ↔
      ∃ row ∈ rows, row.total.val ≠ 0 ∧ row.billedIn = currency := by
  have hsome := Dict.isSome_collect
    (fun row : OverviewRow => if row.total.val = 0 then none else some row.billedIn) 0
    (fun row sum => sum + row.total.decimal) [] rows currency
  rw [← perCurrency] at hsome
  simp only [key_eq_some, Dict.get?, Option.isSome_none, Bool.false_eq_true, false_or] at hsome
  rw [← hsome, ← not_iff_not, ← Dict.get?_eq_none_iff, Option.not_isSome_iff_eq_none]

theorem perCurrency_of_mem {e : String × ℚ} (h : e ∈ perCurrency rows) :
    e.2 = billedSum rows e.1 := by
  have hget := (Dict.mem_iff_get? nodup_keys_perCurrency).1 h
  rw [← getD_perCurrency, hget, Option.getD_some]

instance : Std.Total fun a b : String × Double => b.2.val ≤ a.2.val :=
  ⟨fun a b => le_total b.2.val a.2.val⟩

instance : IsTrans (String × Double) fun a b => b.2.val ≤ a.2.val :=
  ⟨fun _ _ _ hab hbc => hbc.trans hab⟩

theorem byCurrency_perm : (clusterTotals rows).byCurrency.Perm
    ((perCurrency rows).map fun e => (e.1, Double.ofRat e.2)) := List.perm_insertionSort _ _

theorem keys_byCurrency_perm :
    ((clusterTotals rows).byCurrency.map Prod.fst).Perm (perCurrency rows).keys := by
  refine (byCurrency_perm.map Prod.fst).trans (List.Perm.of_eq ?_)
  rw [List.map_map]
  rfl

theorem byCurrency_of_mem {e : String × Double} (h : e ∈ (clusterTotals rows).byCurrency) :
    e.2 = .ofRat (billedSum rows e.1) := by
  obtain ⟨e', he', rfl⟩ := List.mem_map.1 (byCurrency_perm.mem_iff.1 h)
  exact congrArg Double.ofRat (perCurrency_of_mem he')

theorem billedSum_of_billedInOne (h : BilledInOne rows currency) :
    billedSum rows currency = (rows.map fun row => row.total.decimal).sum := by
  have hsplit := List.sum_map_filter_add_sum_map_filter_not
    (fun row : OverviewRow => row.total.val ≠ 0 ∧ row.billedIn = currency)
      (fun row => row.total.decimal) rows
  rw [← hsplit, billedSum, billedRows, left_eq_add]
  refine List.sum_eq_zero (List.forall_mem_map.2 fun row hrow => decimal_eq_zero ?_)
  obtain ⟨hmem, hnot⟩ := List.mem_filter.1 hrow
  by_contra hne
  exact of_decide_eq_true hnot ⟨hne, h.2 row hmem hne⟩

/-- One currency is listed where the rows are billed in one. -/
theorem length_byCurrency_eq_one : (clusterTotals rows).byCurrency.length = 1 ↔
    ∃ currency, BilledInOne rows currency := by
  have hkeys : ∀ currency, currency ∈ (clusterTotals rows).byCurrency.map Prod.fst ↔
      ∃ row ∈ rows, row.total.val ≠ 0 ∧ row.billedIn = currency := fun currency =>
    keys_byCurrency_perm.mem_iff.trans mem_keys_perCurrency
  constructor
  · intro hone
    obtain ⟨e, he⟩ := List.length_eq_one_iff.1 hone
    rw [he] at hkeys
    obtain ⟨row, hrow, hne, -⟩ := (hkeys e.1).1 (List.mem_singleton_self _)
    refine ⟨e.1, ⟨row, hrow, hne⟩, fun row hrow hne => ?_⟩
    exact List.mem_singleton.1 ((hkeys row.billedIn).2 ⟨row, hrow, hne, rfl⟩)
  · rintro ⟨currency, ⟨row, hrow, hne⟩, hall⟩
    have honly : ((clusterTotals rows).byCurrency.map Prod.fst).Perm [currency] := by
      refine (List.perm_ext_iff_of_nodup (keys_byCurrency_perm.nodup_iff.2 nodup_keys_perCurrency)
        (List.nodup_singleton _)).2 fun other => ?_
      rw [hkeys, List.mem_singleton]
      constructor
      · rintro ⟨row, hrow, hne, rfl⟩
        exact hall row hrow hne
      · rintro rfl
        exact ⟨row, hrow, hne, hall row hrow hne⟩
    have hlength := honly.length_eq
    rwa [List.length_map] at hlength

/-- **The totals** have a figure for every currency that rows are billed in. -/
theorem totalsAgree (rows : List OverviewRow) : TotalsAgree rows (clusterTotals rows) := by
  have htotal : (clusterTotals rows).total = ((if (clusterTotals rows).byCurrency.length = 1 then
      (clusterTotals rows).byCurrency.head? else none).map Prod.snd) := rfl
  constructor
  case currencies => exact fun currency => keys_byCurrency_perm.mem_iff.trans mem_keys_perCurrency
  case once => exact keys_byCurrency_perm.nodup_iff.2 nodup_keys_perCurrency
  case figures => exact fun e he => byCurrency_of_mem he
  case exact =>
    intro e he hfifteen
    rw [byCurrency_of_mem he, Double.decimal_ofRat hfifteen]
  case single =>
    rw [htotal, ← length_byCurrency_eq_one]
    split_ifs with hone
    · obtain ⟨e, he⟩ := List.length_eq_one_iff.1 hone
      simp [he]
    · simp [hone]
  case singleFigure =>
    intro total hsome
    rw [htotal] at hsome
    split_ifs at hsome with hone
    · obtain ⟨e, he⟩ := List.length_eq_one_iff.1 hone
      rw [he] at hsome
      obtain rfl : e.2 = total := Option.some.inj hsome
      have hmem : e ∈ (clusterTotals rows).byCurrency := he ▸ List.mem_singleton_self e
      obtain ⟨currency, hcurrency⟩ := length_byCurrency_eq_one.1 hone
      have hkey : e.1 = currency := by
        obtain ⟨row, hrow, hne, heq⟩ := mem_keys_perCurrency.1
          (keys_byCurrency_perm.mem_iff.1 (List.mem_map_of_mem hmem))
        exact heq.symm.trans (hcurrency.2 row hrow hne)
      have hfigure : e.2 = .ofRat (rows.map fun row => row.total.decimal).sum := by
        rw [byCurrency_of_mem hmem, hkey, billedSum_of_billedInOne hcurrency]
      refine ⟨hfigure, fun hfifteen => ?_⟩
      rw [hfigure, Double.decimal_ofRat hfifteen]
    · cases hsome
  case decreasing => exact List.pairwise_insertionSort _ _

end Totals

/-! ### The groups -/

section Groups

variable {c : Casing} {s : Settings} {m : Month} {db : Db}

theorem overviewKey_eq {a b : UsageSnapshot} (ha : ¬ "name:".toList <+: a.domainId.toList)
    (hb : ¬ "name:".toList <+: b.domainId.toList) (h : overviewKey a = overviewKey b) :
    a.domainId = b.domainId := by
  have hheading : ∀ name : String, "name:".toList <+: ("name:" ++ name).toList := fun name => by
    rw [String.toList_append]
    exact List.prefix_append _ _
  unfold overviewKey orElse at h
  split_ifs at h with hna hnb hnb
  · rw [hna, hnb]
  · exact absurd (h ▸ hheading a.account) hb
  · exact absurd (h ▸ hheading b.account) ha
  · exact h

/-- Every measurement of the month is in one group, with all those of its domain. -/
theorem overviewGroups_partition
    (h : ∀ row ∈ db.usageSnapshots.rows, ¬ "name:".toList <+: row.domainId.toList) :
    Partition m db ((overviewGroups m db).map Prod.snd) := by
  have hgroups := Dict.group_perm overviewKey (overviewSnapshots m db)
  have hmonth :
    (overviewSnapshots m db).Perm (db.usageSnapshots.rows.filter fun row => m.Covers row.takenOn) :=
    List.perm_insertionSort _ _
  have hgroup : ∀ group ∈ (overviewGroups m db).map Prod.snd, ∀ a ∈ group,
      a ∈ db.usageSnapshots.rows ∧ group = (overviewSnapshots m db).filter fun b => overviewKey b =
        overviewKey a := by
    intro group hmem a ha
    obtain ⟨⟨k, snapshots⟩, he, rfl⟩ := List.mem_map.1 hmem
    have hsnapshots := mem_overviewGroups he
    rw [hsnapshots] at ha
    obtain ⟨hmem, hkey⟩ := List.mem_filter.1 ha
    refine ⟨(mem_overviewSnapshots.1 hmem).1, ?_⟩
    rw [hsnapshots, of_decide_eq_true hkey]
  constructor
  case once =>
    have hflat : ((overviewGroups m db).map Prod.snd).flatten.Perm (overviewSnapshots m db) := by
      refine ((hgroups.map Prod.snd).flatten).trans ?_
      rw [List.map_map]
      exact flatten_by_own_key overviewKey _
    exact hflat.trans hmonth
  case together =>
    intro group hmem a ha b hb hcovers hdomain hsame
    obtain ⟨-, hall⟩ := hgroup group hmem a ha
    rw [hall]
    refine List.mem_filter.2 ⟨mem_overviewSnapshots.2 ⟨hb, hcovers⟩, decide_eq_true ?_⟩
    rw [overviewKey, overviewKey, orElse, orElse, hsame, if_neg hdomain, if_neg hdomain]
  case apart =>
    intro group hmem a ha b hb
    obtain ⟨harow, hall⟩ := hgroup group hmem a ha
    obtain ⟨hbrow, -⟩ := hgroup group hmem b hb
    rw [hall] at hb
    exact overviewKey_eq (h a harow) (h b hbrow) (of_decide_eq_true (List.mem_filter.1 hb).2).symm

theorem rows_of_groups (groups : Dict String (List UsageSnapshot)) (h : ∀ e ∈ groups, e.2 ≠ []) :
    List.Forall₂ (fun row group => ∃ latest, PricesGroup c s m db row group latest)
      (groups.filterMap fun e => e.2.getLast?.map (overviewRow c s m db e.2))
        (groups.map Prod.snd) := by
  induction groups with
  | nil => exact .nil
  | cons e groups ih =>
    obtain ⟨he, hgroups⟩ := List.forall_mem_cons.1 h
    have hlatest : e.2.getLast? = some (e.2.getLast he) := List.getLast?_eq_some_getLast he
    rw [List.filterMap_cons_some (by rw [hlatest]; rfl), List.map_cons]
    exact .cons ⟨_, hlatest, rfl, rfl, rfl, rfl, rfl⟩ (ih hgroups)

/-- **The overview loses and repeats nothing.**  Its rows are the prices of groups that hold every
measurement of the month once, and its totals agree with the rows. -/
theorem overview_conserves (h : ∀ row ∈ db.usageSnapshots.rows,
    ¬ "name:".toList <+: row.domainId.toList) :
    (∃ rows groups, (billingOverviewGet c s m db).accounts.Perm rows ∧ Partition m db groups ∧
      List.Forall₂ (fun row group => ∃ latest, PricesGroup c s m db row group latest) rows groups) ∧
    TotalsAgree (billingOverviewGet c s m db).accounts (billingOverviewGet c s m db).totals := by
  refine ⟨⟨_, _, List.perm_insertionSort _ _, overviewGroups_partition h, rows_of_groups _ ?_⟩,
    totalsAgree _⟩
  intro e he
  obtain ⟨⟨row, hrow, hkey⟩, hgroup⟩ := Dict.mem_group_iff.1 he
  rw [hgroup]
  exact List.ne_nil_of_mem (List.mem_filter.2 ⟨hrow, decide_eq_true hkey⟩)

end Groups

/-- One account owes 90071992547409.92 for its processors, another one hundredth for a disk. -/
def largeAndSmall : Db :=
  { pricedDb "Acme" (measuredRow "Acme" "d1" "p1") with
    tariffRates := [⟨1, .vcpu, ⟨225179981368524800, by decide⟩⟩, ⟨1, .ssdGb, ⟨100, by decide⟩⟩]
    usageSnapshots :=
      (SnapshotTable.empty.updateOrCreate (measuredRow "Acme" "d1" "p1")).updateOrCreate
      { measuredRow "Beta" "d2" "p2" with vcpus := 0, ssdGib := 1 } }

theorem overview_conserves_largeAndSmall :
    let overview := billingOverviewGet .ascii plainSettings august largeAndSmall
    (∃ rows groups, overview.accounts.Perm rows ∧ Partition august largeAndSmall groups ∧
      List.Forall₂ (fun row group => ∃ latest,
        PricesGroup .ascii plainSettings august largeAndSmall row group latest) rows groups) ∧
    TotalsAgree overview.accounts overview.totals :=
  overview_conserves (by decide +kernel)

/-- Their sum has sixteen digits, and the figure is a hundredth more. -/
theorem sixteen_digits_are_rounded :
    let overview := billingOverviewGet .ascii plainSettings august largeAndSmall
    (∀ row ∈ largeAndSmall.usageSnapshots.rows, ¬ "name:".toList <+: row.domainId.toList) ∧
    (overview.totals.byCurrency.map fun e => (e.1, e.2.decimal)) = [("UZS", 90071992547409.94)] ∧
    billedSum overview.accounts "UZS" = 90071992547409.93 := by
  refine ⟨by decide +kernel, ?_, ?_⟩ <;> decide +kernel

end OpenCloud
