import OpenCloud.Billing.Database

/-!
# Turning measurements into money

The only place that knows how a stored measurement becomes a billable quantity and how a quoted
price becomes a charge.  Prices are quoted per month and a month is charged in full: `costOf` prices
the average amount held over the days that were measured, `estimateMonth` prices one measurement as
a month of that shape.

A line is computed in exact decimals (`Charge`) and shown as floats (`CostLine`).  Python computes
in decimals of 28 digits, more than any amount a column holds; the model computes in exact ones.

## Main results

* `get?_unitDays` : what accumulates under a resource is the sum over the rows of the period.
* `charges_eq` : the charges of a period, resource by resource.
* `costOf_perm` : the order of the rows does not matter.
-/

namespace OpenCloud

/-- resource → price per unit and month. -/
abbrev RateMap := Dict Resource ℚ

/-- `QUANTITY`: a measurement as a billable quantity. -/
def Resource.measure : Resource → Measurements → ℚ
  | vcpu, s => s.vcpus
  | ramGb, s => s.ramMb / 1024
  | ssdGb, s => s.ssdGib
  | hddGb, s => s.hddGib
  | elasticIp, s => s.elasticIps
  | snapshotGb, s => s.snapshotGib

/-- `Meta.ordering` of `Tariff`. -/
def Tariff.le (a b : Tariff) : Prop :=
  a.account < b.account ∨ (a.account = b.account ∧ a.name ≤ b.name)

instance : DecidableRel Tariff.le := fun _ _ => inferInstanceAs (Decidable (_ ∨ _))

/-- The account's own price list, else the default one, else nothing. -/
def resolveTariff (c : Casing) (tariffs : List Tariff) (account : String) : Option Tariff :=
  let own := Table.firstBy Tariff.le
    (tariffs.filter fun t => t.isActive = true ∧ c.iexact t.account account)
  own <|> Table.firstBy Tariff.le (tariffs.filter fun t => t.isActive = true ∧ t.account = "")

/-- `tariff.rates.all()`. -/
def Tariff.rates (tariffRates : List TariffRate) (t : Tariff) : List TariffRate :=
  (tariffRates.filter fun r => r.tariff = t.pk).insertionSort
    fun a b => a.resource.value ≤ b.resource.value

/-- resource → price per unit and month.  A resource with no row, or a price of zero, is not
charged. -/
def rateMap (tariffRates : List TariffRate) : Option Tariff → RateMap
  | none => []
  | some t => ((t.rates tariffRates).filter fun r => r.pricePerMonth.val ≠ 0).foldl
      (fun d r => d.set r.resource r.pricePerMonth.val) []

/-- Snapshot storage that counts: all of it, or all but the scheduled backups. -/
def snapshotGib (s : Measurements) (withBackups : Bool) : ℤ :=
  if withBackups then s.snapshotGib else (s.snapshotGib : ℤ) - s.backupSnapshotGib

/-- The billable quantities of one measurement. -/
def quantities (s : Measurements) (withBackups : Bool) : Dict Resource ℚ :=
  let measured := Resource.all.map fun r => (r, r.measure s)
  if withBackups then measured else Dict.set measured .snapshotGb (snapshotGib s false)

/-- The figures of one line of a bill, exact. -/
structure Charge where
  resource : Resource
  quantity : ℚ
  unitPrice : ℚ
  cost : ℚ
  priced : Bool
  deriving DecidableEq

/-- `_money`. -/
def money (value : ℚ) : ℚ := quantize 2 value

/-- What holding `average` of a resource costs for a month. -/
def charge (rates : RateMap) (r : Resource) (average : ℚ) : Charge :=
  let held := quantize 2 average
  let monthly := (rates.get? r).getD 0
  { resource := r, quantity := held, unitPrice := monthly, cost := money (held * monthly)
    priced := (rates.get? r).isSome }

/-- A line of an estimate, as the payload shows it. -/
structure EstimateLine where
  resource : Resource
  label : String
  quantity : Double
  unitPrice : Double
  cost : Double
  priced : Bool
  deriving DecidableEq

/-- A line of a bill, as the payload shows it. -/
structure CostLine extends EstimateLine where
  unitDays : Double
  deriving DecidableEq

/-- The figures of a charge as floats. -/
def Charge.line (ch : Charge) : EstimateLine where
  resource := ch.resource
  label := ch.resource.label
  quantity := .ofRat ch.quantity
  unitPrice := .ofRat ch.unitPrice
  cost := .ofRat ch.cost
  priced := ch.priced

/-- What `cost_of` and `estimate_month` answer. -/
structure Cost (Line : Type) where
  lines : List Line
  total : Double
  days : ℕ

/-- The sum of the charges. -/
def totalOf (charges : List Charge) : ℚ := (charges.map Charge.cost).sum

/-! ### What accumulates under a resource -/

/-- The amount of a resource in one measurement, with or without the scheduled backups. -/
def Resource.quantity (r : Resource) (s : Measurements) (withBackups : Bool) : ℚ :=
  if r = snapshotGb then snapshotGib s withBackups else r.measure s

theorem keys_quantities (s : Measurements) (withBackups : Bool) :
    (quantities s withBackups).keys = Resource.all := by
  cases withBackups <;> rfl

theorem nodup_keys_quantities (s : Measurements) (withBackups : Bool) :
    (quantities s withBackups).keys.Nodup := by
  rw [keys_quantities]
  decide

theorem get?_quantities (s : Measurements) (withBackups : Bool) (r : Resource) :
    (quantities s withBackups).get? r = some (r.quantity s withBackups) := by
  cases withBackups <;> cases r <;> rfl

section CostOf

variable (settings : List AccountSettings) (snapshots : List UsageSnapshot) (rates : RateMap)

/-- The quantities of all the rows, one row after the other, each with the setting of its account on
scheduled backups. -/
def quantitiesOf : List (Resource × ℚ) :=
  let withoutBackups := uncounted settings (snapshots.map UsageSnapshot.domainId)
  snapshots.flatMap fun s => quantities s.toMeasurements (s.domainId ∉ withoutBackups)

/-- resource → the amounts held, summed over the rows; a resource nobody held is left out. -/
def unitDays : Dict Resource ℚ :=
  Dict.collect (fun e : Resource × ℚ => if e.2 = 0 then none else some e.1) 0
    (fun e accumulated => accumulated + e.2) [] (quantitiesOf settings snapshots)

/-- The number of days measured. -/
def measuredDays : ℕ := (snapshots.map UsageSnapshot.takenOn).dedup.length

/-- `sorted(unit_days.items())`. -/
def sortedItems (d : Dict Resource ℚ) : List (Resource × ℚ) :=
  d.insertionSort fun a b => a.1.value ≤ b.1.value

/-- The charge of one accumulated quantity: its average over the days measured. -/
def chargeOf (e : Resource × ℚ) : Charge :=
  let measured := measuredDays snapshots
  charge rates e.1 (if measured = 0 then 0 else e.2 / measured)

/-- The charges of a period. -/
def charges : List Charge :=
  (sortedItems (unitDays settings snapshots)).map (chargeOf snapshots rates)

/-- Cost of a period under one monthly rate map. -/
def costOf : Cost CostLine where
  lines := (sortedItems (unitDays settings snapshots)).map fun e =>
    { (chargeOf snapshots rates e).line with unitDays := .ofRat (quantize 2 e.2) }
  total := .ofRat (totalOf (charges settings snapshots rates))
  days := measuredDays snapshots

/-- The amount a row holds of a resource, under the setting of its account. -/
def held (r : Resource) (s : UsageSnapshot) : ℚ :=
  r.quantity s.toMeasurements (countsBackups settings s.domainId)

variable {settings snapshots rates}

theorem sum_items (counts : UsageSnapshot → Bool) (r : Resource) (w : ℚ) :
    ((snapshots.flatMap fun s => quantities s.toMeasurements (counts s)).filter
        fun e => (if e.2 = 0 then none else some e.1) = some r).foldl (fun w e => w + e.2) w =
      w + (snapshots.map fun s => r.quantity s.toMeasurements (counts s)).sum := by
  induction snapshots generalizing w with
  | nil => simp
  | cons s snapshots ih =>
    have hone : (quantities s.toMeasurements (counts s)).filter
        (fun e => (if e.2 = 0 then none else some e.1) = some r) =
        [(r, r.quantity s.toMeasurements (counts s))].filter fun e => e.2 ≠ 0 := by
      rw [show [(r, r.quantity s.toMeasurements (counts s))] =
        (quantities s.toMeasurements (counts s)).filter (fun e => e.1 = r) by
          rw [Dict.filter_key (nodup_keys_quantities _ _), get?_quantities]; rfl,
            List.filter_filter]
      refine List.filter_congr fun e _ => ?_
      by_cases he : e.2 = 0 <;> simp [he]
    rw [List.flatMap_cons, List.filter_append, List.foldl_append, ih, hone, List.map_cons,
      List.sum_cons, ← add_assoc]
    congr 1
    by_cases hq : r.quantity s.toMeasurements (counts s) = 0 <;> simp [hq]

theorem quantitiesOf_eq : quantitiesOf settings snapshots =
    snapshots.flatMap fun s => quantities s.toMeasurements (countsBackups settings s.domainId) := by
  refine List.flatMap_congr fun s hs => ?_
  congr 1
  have hmem : s.domainId ∈ snapshots.map UsageSnapshot.domainId := List.mem_map_of_mem hs
  rw [Bool.eq_iff_iff, decide_eq_true_iff, mem_uncounted_iff hmem, Bool.not_eq_false]

theorem getD_unitDays (r : Resource) :
    ((unitDays settings snapshots).get? r).getD 0 = (snapshots.map (held settings r)).sum := by
  have hsum := Dict.getD_collect (fun e : Resource × ℚ => if e.2 = 0 then none else some e.1) 0
    (fun e accumulated => accumulated + e.2) [] (quantitiesOf settings snapshots) r
  rw [quantitiesOf_eq, sum_items (fun s => countsBackups settings s.domainId),
    ← quantitiesOf_eq] at hsum
  exact hsum.trans (zero_add _)

theorem isSome_unitDays (r : Resource) :
    ((unitDays settings snapshots).get? r).isSome ↔ ∃ s ∈ snapshots, held settings r s ≠ 0 := by
  rw [unitDays, Dict.isSome_collect, quantitiesOf_eq]
  constructor
  · rintro (h | ⟨⟨r', q⟩, he, hr⟩)
    · simp [Dict.get?] at h
    · obtain ⟨s, hs, hq⟩ := List.mem_flatMap.1 he
      by_cases hq0 : q = 0
      · simp [hq0] at hr
      · obtain rfl : r' = r := by simpa [hq0] using hr
        rw [Dict.mem_iff_get? (nodup_keys_quantities _ _), get?_quantities] at hq
        exact ⟨s, hs, by rw [held, Option.some.inj hq]; exact hq0⟩
  · rintro ⟨s, hs, hne⟩
    refine .inr ⟨(r, held settings r s), List.mem_flatMap.2 ⟨s, hs, ?_⟩, by simp [hne]⟩
    rw [Dict.mem_iff_get? (nodup_keys_quantities _ _), get?_quantities]
    rfl

/-- What accumulates under a resource is the sum over the rows, if some row holds any of it. -/
theorem get?_unitDays (r : Resource) : (unitDays settings snapshots).get? r =
    if ∃ s ∈ snapshots, held settings r s ≠ 0 then some (snapshots.map (held settings r)).sum
    else none := by
  have hsome : ((unitDays settings snapshots).get? r).isSome ↔ _ := isSome_unitDays r
  have hval : ((unitDays settings snapshots).get? r).getD 0 = _ := getD_unitDays r
  split_ifs with h
  · obtain ⟨q, hq⟩ := Option.isSome_iff_exists.1 (hsome.2 h)
    rw [hq, Option.getD_some] at hval
    rw [hq, hval]
  · exact Option.not_isSome_iff_eq_none.1 fun hs => h (hsome.1 hs)

theorem nodup_keys_unitDays : (unitDays settings snapshots).keys.Nodup :=
  Dict.nodup_keys_collect (d := []) List.nodup_nil _

end CostOf

/-! ### The order of the lines -/

theorem Resource.value_injective : Function.Injective Resource.value := by
  intro a b h
  cases a <;> cases b <;> first | rfl | (revert h; decide)

instance : Std.Total fun a b : Resource × ℚ => a.1.value ≤ b.1.value :=
  ⟨fun a b => String.le_total a.1.value b.1.value⟩

instance : IsTrans (Resource × ℚ) fun a b => a.1.value ≤ b.1.value :=
  ⟨fun _ _ _ => String.le_trans⟩

theorem sortedItems_eq {d : Dict Resource ℚ} (hd : d.keys.Nodup) :
    sortedItems d = Resource.sorted.filterMap fun r => (d.get? r).map (r, ·) :=
  Dict.insertionSort_items (fun a b : Resource => a.value ≤ b.value)
    (fun _ _ hab hba => Resource.value_injective (String.le_antisymm hab hba)) (by decide)
    Resource.sorted_nodup hd fun r _ => Resource.mem_sorted r

/-- The charges of a period: one for each resource some row holds, for its average. -/
theorem charges_eq (settings : List AccountSettings) (snapshots : List UsageSnapshot)
    (rates : RateMap) : charges settings snapshots rates =
      Resource.sorted.filterMap fun r =>
        if ∃ s ∈ snapshots, held settings r s ≠ 0 then
          some (chargeOf snapshots rates (r, (snapshots.map (held settings r)).sum))
        else none := by
  rw [charges, sortedItems_eq nodup_keys_unitDays, List.map_filterMap]
  refine List.filterMap_congr fun r _ => ?_
  rw [get?_unitDays]
  split_ifs <;> rfl

/-- The bill of a period does not depend on the order of its rows. -/
theorem costOf_perm {settings : List AccountSettings} {snapshots snapshots' : List UsageSnapshot}
    {rates : RateMap} (h : snapshots.Perm snapshots') :
    costOf settings snapshots rates = costOf settings snapshots' rates := by
  have hdays : measuredDays snapshots = measuredDays snapshots' := (h.map _).dedup.length_eq
  have hitems : sortedItems (unitDays settings snapshots) =
    sortedItems (unitDays settings snapshots') := by
    rw [sortedItems_eq nodup_keys_unitDays, sortedItems_eq nodup_keys_unitDays]
    refine List.filterMap_congr fun r _ => ?_
    rw [get?_unitDays, get?_unitDays, (h.map (held settings r)).sum_eq]
    simp only [h.mem_iff]
  unfold costOf charges chargeOf
  rw [hitems, hdays]

section EstimateMonth

variable (measurements : Measurements) (rates : RateMap)

/-- The charges of a month of this shape. -/
def estimateCharges : List Charge :=
  ((sortedItems (quantities measurements true)).filter fun e => e.2 ≠ 0).map fun e =>
    charge rates e.1 e.2

/-- What today's shape would cost for a month, at the quoted prices. -/
def estimateMonth : Cost EstimateLine where
  lines := (estimateCharges measurements rates).map Charge.line
  total := .ofRat (totalOf (estimateCharges measurements rates))
  days := 0

end EstimateMonth

end OpenCloud
