import OpenCloud.Billing.Rates
import OpenCloud.Common.Tenancy
import OpenCloud.Lib.Runs

/-!
# Writing the price lists

A price list is written by an administrator of an account, by an operator, by a command of the
shell, and once when the service first starts.  All of them write the list of an account under its
exact name, and make it active.

## Main results

* `written_of_run` : after any writes, the lists have distinct keys and are active.
-/

namespace OpenCloud

/-- How a write of a price list ends. -/
inductive PriceOutcome where
  | saved
  | refused (err : Failure)
  /-- `Tariff.MultipleObjectsReturned`. -/
  | several
  /-- `decimal.InvalidOperation`. -/
  | invalidOperation
  deriving DecidableEq

/-- A price as Python reads it, a float or a decimal. -/
inductive Price where
  | number (value : ℚ)
  | infinity (negative : Bool)
  | nan
  deriving DecidableEq

namespace Price

/-- `price < 0`, where it answers. -/
def isNegative : Price → Bool
  | number value => value < 0
  | infinity negative => negative
  | nan => false

/-- The price in its column `numeric(18, 4)`, which takes finite values only. -/
def store : Price → Option (Numeric 18 4)
  | number value => Numeric.store 18 4 value
  | _ => none

end Price

/-- The tables of the price lists. -/
structure PriceLists where
  tariffs : List Tariff
  rates : List TariffRate

namespace PriceLists

/-- Before anything is written. -/
def empty : PriceLists := ⟨[], []⟩

/-- The next primary key. -/
def nextPk (lists : PriceLists) : ℕ := (lists.tariffs.map Tariff.pk).foldl max 0 + 1

/-- `Tariff.objects.create`, with the key of the new list. -/
def create (lists : PriceLists) (account name currency : String) : PriceLists × ℕ :=
  ({ lists with tariffs := lists.tariffs ++ [⟨lists.nextPk, name, currency, account, true⟩] },
    lists.nextPk)

/-- `Tariff.objects.update_or_create(account=…)`, which leaves the list active; with its key.
Several lists of the account are an error.  A write that looked before another one added the list
adds a second: nothing keeps the column unique. -/
def updateTariff (lists : PriceLists) (crossing : Bool) (account name currency : String) :
    Option (PriceLists × ℕ) :=
  match crossing, lists.tariffs.filter fun t => t.account = account with
  | true, _ => some (lists.create account name currency)
  | false, [] => some (lists.create account name currency)
  | false, [found] => some ({ lists with
      tariffs := lists.tariffs.map fun t =>
        if t.pk = found.pk then
          { t with name := name, currency := currency, isActive := true } else t },
      found.pk)
  | false, _ => none

/-- `TariffRate.objects.update_or_create`, for each price; a price that does not fit its column ends
the loop. -/
def updateRates (lists : PriceLists) (pk : ℕ) :
    List (Resource × Price) → PriceLists × Option DbError
  | [] => (lists, none)
  | (resource, price) :: prices =>
    match price.store with
    | none => (lists, some .data)
    | some price =>
      updateRates { lists with
        rates := Table.upsert (fun r => r.tariff = pk ∧ r.resource = resource) ⟨pk, resource, price⟩
          (fun r => { r with pricePerMonth := price }) lists.rates } pk prices

/-- A resource left out is cleared rather than kept. -/
def clearOthers (lists : PriceLists) (pk : ℕ) (prices : List (Resource × Price)) : PriceLists :=
  { lists with rates := lists.rates.filter fun r => r.tariff ≠ pk ∨
    r.resource ∈ prices.map Prod.fst }

/-- Write the list of an account, price by price. -/
def write (lists : PriceLists) (crossing : Bool) (account name currency : String)
    (prices : List (Resource × Price)) (keepOthers : Bool) : PriceOutcome × PriceLists :=
  if 255 < account.length ∨ 120 < name.length ∨ 8 < currency.length then
    (.refused (.db .data), lists)
  else match lists.updateTariff crossing account name currency with
    | none => (.several, lists)
    | some (lists, pk) =>
      match lists.updateRates pk prices with
      | (lists, some err) => (.refused (.db err), lists)
      | (lists, none) => (.saved, if keepOthers then lists else lists.clearOthers pk prices)

end PriceLists

/-! ### The requests -/

/-- The rates of a payload: nothing if they are not an object; a value that is not a number is
nothing. -/
abbrev SubmittedRates := Option (List (String × Option Price))

/-- The resource of a key. -/
def Resource.ofValue (value : String) : Option Resource :=
  Resource.all.find? fun r => r.value = value

def invalidRates (message : String) : PriceOutcome :=
  .refused (.app ⟨message, "invalid_request", 400⟩)

/-- The prices of a payload, each of a known resource and not negative.  Comparing a NaN with zero
is an error where `comparesNan` does not hold. -/
def checkedPrices (comparesNan : Bool) : SubmittedRates → Except PriceOutcome (Dict Resource Price)
  | none => .error (invalidRates "rates must be an object of resource → price per month")
  | some entries =>
    let unknown := (entries.map Prod.fst).filter fun key => (Resource.ofValue key).isNone
    if unknown ≠ [] then
      .error (invalidRates ("Unknown resources: " ++
        join ", " (unknown.insertionSort fun a b => a ≤ b)))
    else
      entries.foldlM (fun prices e => match Resource.ofValue e.1, e.2 with
        | _, none => .error (invalidRates ("Price for " ++ e.1 ++ " is not a number"))
        | none, some _ => .ok prices
        | some resource, some price =>
          if price = .nan ∧ !comparesNan then .error .invalidOperation
          else if price.isNegative then
            .error (invalidRates ("Price for " ++ e.1 ++ " is negative"))
          else .ok (Dict.set prices resource price)) ([] : Dict Resource Price)

/-- The check of `AdminTariffView.put`: prices are floats, and a NaN is not below zero. -/
def adminPrices : SubmittedRates → Except PriceOutcome (Dict Resource Price) := checkedPrices true

/-- `_validated_prices`: prices are decimals, and comparing a NaN raises. -/
def validatedPrices : SubmittedRates → Except PriceOutcome (Dict Resource Price) :=
  checkedPrices false

/-- `str(payload.get('currency') or 'UZS').strip()[:8]`. -/
def submittedCurrency (currency : String) : String :=
  String.ofList ((strip (orElse currency "UZS")).toList.take 8)

/-- The name of an account's list. -/
def listName (account : String) : String :=
  if account = "" then "Default price list" else account ++ " price list"

/-- `PRICES` of the first start, per unit and month. -/
def firstPrices : List (Resource × Price) :=
  [(.vcpu, .number 46000), (.ramGb, .number 12600), (.ssdGb, .number 1900), (.hddGb, .number 500),
    (.elasticIp, .number 50000), (.snapshotGb, .number 500)]

/-- What writes price lists. -/
inductive PriceWrite where
  /-- `AdminTariffView.put`. -/
  | adminPut (cloud : Cloud) (user : CabinetUser) (currency : String) (rates : SubmittedRates)
  /-- `TariffView.put`. -/
  | panelPut (account currency : String) (rates : SubmittedRates)
  /-- `set_tariff`, with the prices its options gave. -/
  | setTariff (account name currency : String) (prices : List (Resource × Price))
    (keepOthers : Bool)
  /-- `ensure_default_tariff`. -/
  | ensure

/-- One write.  It is `crossing` if it looked before another write that was under way added the
list. -/
def writePriceLists (c : Casing) (lists : PriceLists) (crossing : Bool) :
    PriceWrite → PriceOutcome × PriceLists
  | .adminPut cloud user currency rates =>
    match accountDomain c cloud user with
    | .error err => (.refused (.app err), lists)
    | .ok (account, _) =>
      match adminPrices rates with
      | .error outcome => (outcome, lists)
      | .ok prices => lists.write crossing account (account ++ " price list")
        (submittedCurrency currency) prices false
  | .panelPut account currency rates =>
    match validatedPrices rates with
    | .error outcome => (outcome, lists)
    | .ok prices =>
      lists.write crossing (strip account) (listName (strip account))
        (submittedCurrency currency) prices false
  | .setTariff account name currency prices keepOthers =>
    lists.write crossing (strip account) (orElse name (listName (strip account)))
      (strip currency) prices keepOthers
  | .ensure =>
    if ¬ crossing ∧ lists.tariffs ≠ [] then (.saved, lists)
    else
      let (lists, pk) := lists.create "" "Default price list" "UZS"
      (.saved, (lists.updateRates pk firstPrices).1)

/-- The price lists under writes. -/
def pricing (c : Casing) : System PriceLists (Bool × PriceWrite) :=
  System.ofExec fun lists w => some (writePriceLists c lists w.1 w.2).2

/-! ### What the writes leave -/

/-- A write leaves the lists, writes the list of an account, or adds the first list. -/
theorem writePriceLists_cases (c : Casing) (lists : PriceLists) (crossing : Bool) (w : PriceWrite) :
    (writePriceLists c lists crossing w).2 = lists ∨
      (∃ account name currency prices keepOthers, (writePriceLists c lists crossing w).2 =
        (lists.write crossing account name currency prices keepOthers).2) ∨
      (writePriceLists c lists crossing w).2 =
        ((lists.create "" "Default price list" "UZS").1.updateRates
          lists.nextPk firstPrices).1 := by
  cases w with
  | adminPut cloud user currency rates =>
    simp only [writePriceLists]
    split
    · exact .inl rfl
    · split
      · exact .inl rfl
      · exact .inr (.inl ⟨_, _, _, _, _, rfl⟩)
  | panelPut account currency rates =>
    simp only [writePriceLists]
    split
    · exact .inl rfl
    · exact .inr (.inl ⟨_, _, _, _, _, rfl⟩)
  | setTariff account name currency prices keepOthers => exact .inr (.inl ⟨_, _, _, _, _, rfl⟩)
  | ensure =>
    simp only [writePriceLists]
    split_ifs
    · exact .inl rfl
    · exact .inr (.inr rfl)

/-- The lists have distinct keys and are active. -/
structure Written (lists : PriceLists) : Prop where
  keys : (lists.tariffs.map Tariff.pk).Nodup
  active : ∀ t ∈ lists.tariffs, t.isActive = true

section Written

variable {c : Casing} {lists lists' : PriceLists} {crossing keepOthers : Bool}
  {account name currency : String} {pk : ℕ} {prices : List (Resource × Price)}

theorem nextPk_notMem : lists.nextPk ∉ lists.tariffs.map Tariff.pk := Table.nextKey_notMem _

theorem Written.create (h : Written lists) : Written (lists.create account name currency).1 := by
  refine ⟨?_, ?_⟩
  · rw [PriceLists.create, List.map_append, List.nodup_append]
    refine ⟨h.keys, by simp, ?_⟩
    intro pk hpk pk' hpk'
    obtain rfl : pk' = lists.nextPk := by simpa using hpk'
    exact ne_of_mem_of_not_mem hpk nextPk_notMem
  · intro t ht
    rcases List.mem_append.1 ht with ht | ht
    · exact h.active t ht
    · rw [List.mem_singleton.1 ht]

/-- Finding or adding the list of an account keeps the keys distinct. -/
theorem Written.updateTariff {out : PriceLists × ℕ} (h : Written lists)
    (hout : lists.updateTariff crossing account name currency = some out) : Written out.1 := by
  unfold PriceLists.updateTariff at hout
  split at hout
  · cases hout
    exact h.create
  · cases hout
    exact h.create
  · cases hout
    rename_i found hfound
    refine ⟨?_, fun t ht => ?_⟩
    · -- the keys stay
      have hpk : (Tariff.pk ∘ fun t => if t.pk = found.pk then
          { t with name := name, currency := currency, isActive := true } else t) = Tariff.pk := by
        funext t
        show Tariff.pk (if _ then _ else _) = _
        split_ifs
        · rfl
        · rfl
      rw [List.map_map, hpk]
      exact h.keys
    · obtain ⟨t', ht', rfl⟩ := List.mem_map.1 ht
      split_ifs
      · rfl
      · exact h.active t' ht'
  · cases hout

theorem tariffs_updateRates : (lists.updateRates pk prices).1.tariffs = lists.tariffs := by
  induction prices generalizing lists with
  | nil => rfl
  | cons e prices ih =>
    obtain ⟨resource, price⟩ := e
    rw [PriceLists.updateRates]
    cases price.store with
    | none => rfl
    | some price => exact ih

theorem Written.of_tariffs (h : Written lists) (htariffs : lists'.tariffs = lists.tariffs) :
    Written lists' := ⟨htariffs ▸ h.keys, htariffs ▸ h.active⟩

/-- Writing the list of an account keeps the keys distinct and the lists active. -/
theorem Written.write (h : Written lists) :
    Written (lists.write crossing account name currency prices keepOthers).2 := by
  unfold PriceLists.write
  by_cases hfits : 255 < account.length ∨ 120 < name.length ∨ 8 < currency.length
  · rwa [if_pos hfits]
  · rw [if_neg hfits]
    split
    · exact h
    · rename_i updated pk hupdate
      have hupdated : Written updated := h.updateTariff hupdate
      have hrates := hupdated.of_tariffs (@tariffs_updateRates updated pk prices)
      split
      · rename_i err hout
        rwa [hout] at hrates
      · rename_i hout
        rw [hout] at hrates
        cases keepOthers with
        | true => exact hrates
        | false => exact hrates.of_tariffs rfl

theorem written_step {w : Bool × PriceWrite} (h : Written lists)
    (hstep : (pricing c).step lists w lists') :
    Written lists' := by
  obtain rfl : (writePriceLists c lists w.1 w.2).2 = lists' := Option.some.inj hstep
  rcases writePriceLists_cases c lists w.1 w.2 with hsame | ⟨_, _, _, _, _, hwrite⟩ | hfirst
  · rwa [hsame]
  · rw [hwrite]
    exact h.write
  · rw [hfirst]
    exact h.create.of_tariffs tariffs_updateRates

/-- After any writes the lists have distinct keys and are active. -/
theorem written_of_run {ws : List (Bool × PriceWrite)}
    (hrun : (pricing c).Run System.Free .empty ws lists) :
    Written lists :=
  hrun.keeps ⟨List.nodup_nil, by simp [PriceLists.empty]⟩ fun _ _ _ hs hstep =>
    written_step hs hstep

end Written

end OpenCloud
